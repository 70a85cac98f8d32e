import Lookout.Link.Basic

/-!
# Driving a link

One turn answers one input: an order of the client, a report of a socket, or a timer.  A message is
written at once on an open link and waits otherwise; what waits is written when the retry timer
fires on an open link.  However a socket ends, one function lets it go, stops the streams and
decides what comes next.

## Main definitions

* `Link.afterSocket` — what follows the end of a socket.
* `Link.step` — one turn, and `Link.shutdown` — the last one.
-/

namespace Lookout

/-- What a turn answers. -/
inductive Input where
  | command (command : Command)
  | transport (event : TransportEvent)
  | timer (timer : Timer)

namespace Link

/-! ## Small steps -/

/-- Shows the client where the link is. -/
def publish (l : Link) : Link := { l with published := l.state }

/-- Lets the socket go, with the timers that belong to it. -/
def releaseSocket (l : Link) : Turn :=
  ⟨{ l with heartbeat := none, closeGrace := none, socket := none },
    l.socket.toList.map .release⟩

/-- Forgets the messages that wait. -/
def dropPending (l : Link) : Link := { l with pending := [], sendRetry := none }

/-- Arms the retry timer unless it is armed. -/
def armSendRetry (config : Config) (now : Millis) (l : Link) : Link :=
  { l with sendRetry := some (l.sendRetry.getD (now + config.connection.sendRetryDelay)) }

/-- Queues a message for the socket that is held. -/
def hand (message : WireMessage) (l : Link) : Turn :=
  ⟨l, l.socket.toList.map (Effect.hand · message)⟩

/-- Writes a control message. -/
def write (message : ControlMessage) (l : Link) : Turn := l.hand (.text message.text)

/-- Starts the next attempt, if there is an address and the link is disconnected. -/
def openSocket (l : Link) : Turn :=
  match l.url, l.lifecycle.beginConnect with
  | some url, (lifecycle, some generation) =>
    let l := { l with lifecycle, socket := some generation }
    l.publish.idle.also (.dial generation url)
  | _, _ => l.idle

/-! ## The end of a socket -/

/-- What the outcome of an end asks for. -/
def settleOutcome (now : Millis) (l : Link) : CloseOutcome → Turn
  | .reconnect attempt delay =>
    { l with reconnect := some (now + delay) }.idle.notify
      (.reconnecting attempt l.lifecycle.policy.maxAttempts)
  | .linkLost attempts => l.dropPending.idle.notify (.linkLost attempts)
  | .stopped _ | .idle => l.dropPending.idle
  | .stale => l.idle

/-- Whether the application takes the link for connected. -/
def isUp (l : Link) : Bool := l.state = .opened || l.state = .closing

/-- The socket of a generation has ended.  If it is the present one it is let go, all streams stop,
the application hears of the end of a link that was up, and then of what comes next. -/
def afterSocket (now : Millis) (generation : Nat) (error : Option Error) (l : Link) : Turn :=
  match l.lifecycle.closed generation with
  | (_, .stale) => l.idle
  | (lifecycle, outcome) =>
    let released := { l with lifecycle }.releaseSocket.update publish |>.also .endStreams
    let told := if l.isUp then released.notify (.disconnected error) else released
    told.followedBy fun l => l.settleOutcome now outcome

/-! ## Orders of the client -/

/-- Connects to an address, unless the link is not disconnected. -/
def connect (url : String) (l : Link) : Turn :=
  if l.state = .disconnected then { l with reconnect := none, url := some url }.openSocket
  else l.idle

/-- The messages that wait once one more has come; the oldest goes when there are too many. -/
def hold (config : Config) (message : ControlMessage) (pending : List ControlMessage) :
    List ControlMessage :=
  (if config.connection.maxPendingSends ≤ pending.length then pending.drop 1 else pending) ++
    [message]

/-- Writes a message on an open link, drops it on one that has ended, and lets it wait on any
other. -/
def send (config : Config) (now : Millis) (message : ControlMessage) (l : Link) : Turn :=
  if l.state = .opened then l.write message
  else if l.lifecycle.isTerminated then l.idle
  else
    { l with pending := hold config message l.pending }.armSendRetry config now |>.idle

/-- Ends the link on the user's behalf; a socket still gets a close message. -/
def close (now : Millis) (l : Link) : Turn :=
  let (lifecycle, release) := l.lifecycle.userClose
  let l := { l with lifecycle, reconnect := none }.dropPending
  if release then
    (l.hand .close).followedBy (afterSocket now l.lifecycle.generation none)
  else l.idle

/-! ## Reports of a socket -/

/-- An attempt has succeeded. -/
def connected (config : Config) (now : Millis) (generation : Nat) (l : Link) : Turn :=
  match l.lifecycle.opened generation with
  | (_, false) => l.idle
  | (lifecycle, true) =>
    let l := { l with
      lifecycle
      lastInbound := now
      heartbeat := some (now + config.connection.heartbeatInterval) }.publish
    let l := if l.pending.isEmpty then l else l.armSendRetry config now
    l.idle.notify .opened

/-- The device has announced the end of the link. -/
def announced (config : Config) (now : Millis) (l : Link) : Turn :=
  match l.lifecycle.serverClosing with
  | (_, false) => l.idle
  | (lifecycle, true) =>
    { l with
      lifecycle
      heartbeat := none
      closeGrace := some (now + config.connection.closeGrace) }.publish.idle

/-- Lets the result wait that a message carries, if it is one that can be read. -/
def resultEffects (message : Inbound) : List Effect :=
  if message.requestKind = some .algorithmResult then
    match Result.ofMessage message with
    | .ok result => [.queueResult result]
    | .error _ => []
  else []

/-- A text has arrived; one that is no message is dropped. -/
def receiveText (config : Config) (now : Millis) (text : String) (l : Link) : Turn :=
  match Inbound.ofText text with
  | .error _ => l.idle
  | .ok message =>
    match message.route with
    | .serverClosing => l.announced config now
    | .superseded =>
      { l with lifecycle := l.lifecycle.superseded }.idle.notify .superseded
    | .application message => ⟨l, resultEffects message ++ [.notify (.message message)]⟩

/-- A message has arrived; whatever it is, the device is alive. -/
def receive (config : Config) (now : Millis) (generation : Nat) (message : WireMessage)
    (l : Link) : Turn :=
  if l.lifecycle.isCurrent generation then
    let l := { l with lastInbound := now }
    match message with
    | .text text => l.receiveText config now text
    | .binary raw => ⟨l, [.deliver raw]⟩
    | .close => l.idle
  else l.idle

/-! ## Timers -/

/-- A sign of life is due, unless nothing has arrived for too long. -/
def onHeartbeat (config : Config) (now : Millis) (l : Link) : Turn :=
  match config.connection.idleTimeout with
  | some limit =>
    if limit ≤ now - l.lastInbound then
      l.afterSocket now l.lifecycle.generation (some (.timeout (limit * nanosPerMilli)))
    else l.write .heartbeat
  | none => l.write .heartbeat

/-- The messages that wait are written on an open link; otherwise they are tried again later, as
long as an attempt runs or is due. -/
def onSendRetry (config : Config) (now : Millis) (l : Link) : Turn :=
  if l.pending.isEmpty then l.idle
  else if l.state = .opened then
    ⟨{ l with pending := [] },
      l.pending.flatMap fun message => (l.write message).effects⟩
  else if l.state != .disconnected || l.reconnect.isSome then (l.armSendRetry config now).idle
  else l.idle

/-- The device has not closed the link that it said it would close. -/
def onCloseGrace (config : Config) (now : Millis) (l : Link) : Turn :=
  if l.state = .closing then
    let grace := describeSpan (config.connection.closeGrace * nanosPerMilli)
    l.afterSocket now l.lifecycle.generation (some (.transport
      ("socket still open " ++ grace ++ " after the device announced its disconnect") none))
  else l.idle

/-- A timer fires.  The regular ones are armed again first, the others are not armed any more. -/
def fire (config : Config) (now : Millis) (l : Link) : Timer → Turn
  | .heartbeat =>
    let next := l.heartbeat.map (· + config.connection.heartbeatInterval)
    { l with heartbeat := next }.onHeartbeat config now
  | .reconnect => { l with reconnect := none }.openSocket
  | .sendRetry => { l with sendRetry := none }.onSendRetry config now
  | .closeGrace => { l with closeGrace := none }.onCloseGrace config now
  | .metrics => ⟨{ l with metrics := l.metrics + config.metrics.interval }, [.reportStreams]⟩

/-! ## Turns -/

/-- The turn that answers an input.  A timer that is not armed does not fire. -/
def step (config : Config) (now : Millis) (l : Link) : Input → Turn
  | .command (.connect url) => l.connect url
  | .command (.send message) => l.send config now message
  | .command .close => l.close now
  | .transport (.connected generation) => l.connected config now generation
  | .transport (.connectFailed generation error) => l.afterSocket now generation (some error)
  | .transport (.message generation message) => l.receive config now generation message
  | .transport (.closed generation error) => l.afterSocket now generation error
  | .timer timer => if (l.deadline timer).isSome then l.fire config now timer else l.idle

/-- The last turn: the socket is let go and all streams stop. -/
def shutdown (l : Link) : Turn := l.releaseSocket.also .endStreams

end Link

end Lookout
