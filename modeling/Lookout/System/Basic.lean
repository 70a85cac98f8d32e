import Lookout.Link.Step
import Lookout.Stream.Table

/-!
# The console at work

Besides the task that drives the link, one task runs each socket and one displays the frames of
each stream.  They share the table of streams and talk over queues.  The state of all of them, of
the queues between them and of the device at the other end is one value, and time is a number in
it.

## Main definitions

* `Socket`, `FrameLoop`, `Device` — the other tasks, and the device.
* `System` — everything together.
* `Observation` — what can be seen from outside, in order.
* `System.perform` — lets an effect of a turn take place.
-/

namespace Lookout

/-- How the device answers an attempt to connect. -/
inductive Answer where
  | accept
  | refuse
deriving Repr, DecidableEq

/-- How far the task of a socket has come. -/
inductive Phase where
  | spawned
  /-- the device will answer at this time -/
  | dialing (answer : Answer) (due : Millis)
  | running
  | ended
deriving Repr, DecidableEq

/-- What a socket reads. -/
inductive Arrival where
  | message (m : WireMessage)
  | failure (error : Error)
  /-- nothing more comes -/
  | finished

/-- The task that runs the socket of a generation, and the queues on both of its sides. -/
structure Socket where
  generation : Nat
  url : String
  phase : Phase
  /-- what the link has queued -/
  outbound : List WireMessage
  /-- what the device has queued -/
  inbound : List Arrival
  /-- whether the link has let it go -/
  released : Bool
  /-- which of the accepted sockets it is, counted from 1 -/
  number : Option Nat
  /-- whether the device has hung up -/
  hungUp : Bool

/-- The task that displays the frames of a session. -/
structure FrameLoop where
  channel : ChannelId
  session : SessionId
  period : Nanoseconds
  /-- when the next frame is displayed -/
  due : Nanoseconds

/-- The device, as far as a script decides about it. -/
structure Device where
  answer : Answer := .accept
  /-- how long it takes to answer -/
  delay : Millis := 0
  /-- whether everything that is written to it fails -/
  failWrites : Bool := false
  /-- how many attempts it has accepted -/
  accepted : Nat := 0

/-- What the console does on a socket. -/
inductive SocketAct where
  | wrote (text : String)
  | wroteBinary (bytes : Bytes)
  | wroteClose
  /-- the writing half is closed -/
  | closed
  /-- the socket is given back -/
  | released

/-- What can be seen from outside. -/
inductive Observation where
  | notice (time : Millis) (notice : Notice)
  /-- no notice will follow -/
  | endOfNotices (time : Millis)
  | attempt (url : String)
  | socket (time : Millis) (number : Nat) (act : SocketAct)
  | stream (time : Millis) (call : StreamCall)

/-- The console, its queues and the device. -/
structure System where
  config : Config
  now : Millis
  link : Link
  /-- whether the task that drives the link still runs -/
  driving : Bool
  commands : List Command
  transport : List TransportEvent
  sockets : List Socket
  streams : StreamTable
  /-- ascending by channel -/
  loops : List FrameLoop
  /-- sessions started so far -/
  sessions : Nat
  /-- whether the client has been shut down -/
  shutDown : Bool
  /-- whether the client is gone -/
  dropped : Bool
  /-- whether the notices have ended -/
  finished : Bool
  device : Device
  /-- what has been seen so far, latest first -/
  trace : List Observation

namespace System

/-- A console at time 0 that nobody has used yet. -/
def new (config : Config) : System where
  config
  now := 0
  link := .new config
  driving := true
  commands := []
  transport := []
  sockets := []
  streams := .empty config.alignment
  loops := []
  sessions := 0
  shutDown := false
  dropped := false
  finished := false
  device := {}
  trace := []

/-- Adds to what has been seen. -/
def observe (s : System) (o : Observation) : System := { s with trace := o :: s.trace }

/-- Adds what a stream tells its decoder and its player. -/
def observeCalls (s : System) (calls : List StreamCall) : System :=
  calls.foldl (fun s call => s.observe (.stream s.now call)) s

/-- Adds a notice. -/
def notify (s : System) (notice : Notice) : System := s.observe (.notice s.now notice)

/-- The socket of a generation. -/
def socket? (s : System) (generation : Nat) : Option Socket :=
  s.sockets.find? (·.generation == generation)

/-- Changes the socket of a generation. -/
def updateSocket (s : System) (generation : Nat) (f : Socket → Socket) : System :=
  { s with sockets := s.sockets.map fun k => if k.generation == generation then f k else k }

/-- Adds what is done on an accepted socket. -/
def observeSocket (s : System) (k : Socket) (act : SocketAct) : System :=
  match k.number with
  | some number => s.observe (.socket s.now number act)
  | none => s

/-- A task that has just been started. -/
def freshSocket (generation : Nat) (url : String) : Socket :=
  ⟨generation, url, .spawned, [], [], false, none, false⟩

/-- Queues a message for a socket; one that has ended gets nothing any more. -/
def Socket.enqueue (message : WireMessage) (k : Socket) : Socket :=
  if k.phase = .ended then k else { k with outbound := k.outbound ++ [message] }

/-- The two notices of a report. -/
def statsNotices (stats : StreamStats) : List Notice :=
  [.streamStats stats, .overlayExpired stats.channel]

/-- Lets an effect of a turn take place. -/
def perform (s : System) : Effect → System
  | .dial generation url => { s with sockets := s.sockets ++ [freshSocket generation url] }
  | .hand generation message => s.updateSocket generation (Socket.enqueue message)
  | .release generation => s.updateSocket generation fun k => { k with released := true }
  | .notify notice => s.notify notice
  | .endStreams =>
    let (streams, _, calls) := s.streams.deactivateAll
    { s with streams }.observeCalls calls
  | .queueResult result =>
    match s.streams.pushResult result with
    | .ok streams => { s with streams }
    | .error _ => s
  | .deliver raw =>
    match s.streams.route s.config.demux.minPictureLength raw with
    | .ok (streams, _, calls) => { s with streams }.observeCalls calls
    | .error _ => s
  | .reportStreams =>
    let (streams, stats) := s.streams.takeStats
    (stats.flatMap statsNotices).foldl notify { s with streams }

/-- Takes over a turn of the link. -/
def commit (s : System) (t : Turn) : System := t.effects.foldl perform { s with link := t.link }

end System

end Lookout
