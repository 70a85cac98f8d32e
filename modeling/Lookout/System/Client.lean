import Lookout.System.Schedule

/-!
# What a client can call

A call does what needs no waiting at once and orders the rest.  A client that has been shut down
orders nothing any more.

## Main definitions

* `System.connect`, `connectConfigured`, `send`, `close`, `startStreams`, `stopStreams`,
  `pushResult`, `shutdownClient`, `dropClient`.
-/

namespace Lookout

namespace System

/-- Orders something of the task that drives the link. -/
def order (s : System) (command : Command) : System × Except Error Unit :=
  if s.shutDown then (s, .error .closed)
  else ({ s with commands := s.commands ++ [command] }, .ok ())

/-- Connects to an address. -/
def connect (s : System) (url : String) : System × Except Error Unit :=
  match validateAddress url with
  | .error fault => (s, .error (.config fault))
  | .ok _ => s.order (.connect url)

/-- Connects to the configured address. -/
def connectConfigured (s : System) : System × Except Error Unit :=
  match s.config.connection.url with
  | some url => s.connect url
  | none => (s, .error (.config .noAddress))

/-- Sends a message, at once or as soon as the link is open. -/
def send (s : System) (message : ControlMessage) : System × Except Error Unit :=
  s.order (.send message)

/-- Ends the link. -/
def close (s : System) : System × Except Error Unit := s.order .close

/-- Puts a frame loop at its place. -/
def insertLoop (l : FrameLoop) : List FrameLoop → List FrameLoop
  | [] => [l]
  | other :: rest =>
    if l.channel < other.channel then l :: other :: rest else other :: insertLoop l rest

/-- Starts one stream and its frame loop, which displays its first frame now.  No loop runs on a
period of zero. -/
def startStream (period : Nanoseconds) (s : System) (binding : ChannelId × Player) : System :=
  let (channel, player) := binding
  let session := s.sessions
  let (streams, calls) := s.streams.activate channel session player
  let l : FrameLoop := ⟨channel, session, period, s.now * nanosPerMilli⟩
  let loops := if period = 0 then s.loops else insertLoop l s.loops
  { s with streams, loops, sessions := session + 1 }.observeCalls calls

/-- Starts streams and tells the device how many; undefined if the frame rate leaves no
interval. -/
def startStreams (s : System) (bindings : List (ChannelId × Player)) :
    Option (System × Except Error Unit) :=
  s.config.alignment.frameInterval?.map fun period =>
    (bindings.foldl (startStream period) s).send
      (.request .startStream (some (.nat bindings.length)))

/-- Stops one stream. -/
def stopStream (s : System) (channel : ChannelId) : System :=
  let (streams, _, calls) := s.streams.deactivate channel
  { s with streams }.observeCalls calls

/-- Stops streams and tells the device how many. -/
def stopStreams (s : System) (channels : List ChannelId) : System × Except Error Unit :=
  (channels.foldl stopStream s).send (.request .stopStream (some (.nat channels.length)))

/-- Lets a result wait that did not come over the link. -/
def pushResult (s : System) (result : Result) : System × Except Error Unit :=
  match s.streams.pushResult result with
  | .ok streams => ({ s with streams }, .ok ())
  | .error e => (s, .error e)

/-- Stops every task. -/
def shutdownClient (s : System) : System := { s with shutDown := true }

/-- Gives the client up, which shuts it down. -/
def dropClient (s : System) : System := { s with shutDown := true, dropped := true }

end System

end Lookout
