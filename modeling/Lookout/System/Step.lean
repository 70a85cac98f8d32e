import Lookout.System.Basic

/-!
# Atomic steps

Each task does one thing at a time.  `System.act` says what one such step does, and
`System.enabled` when it can be done; every way in which the tasks can take turns is a sequence of
enabled actions.

While a socket is being connected, its task waits for the answer and for its release at once, and
when both are there either may be seen first: `Action.poll` sees the release first and
`Action.attempt` the answer.  A socket that is connected first writes what is queued, then reads,
and only then looks whether it has been let go.  So a release never overtakes a message that was
queued before it.

## Main definitions

* `Action`, `System.enabled`, `System.act`.
-/

namespace Lookout

/-- One step of one task. -/
inductive Action where
  /-- the task that drives the link ends -/
  | stop
  /-- the link answers the oldest order -/
  | command
  /-- the link answers the oldest report -/
  | transport
  /-- the link answers a timer -/
  | timer (timer : Timer)
  /-- the socket of a generation goes on -/
  | poll (generation : Nat)
  /-- the socket of a generation goes on with its attempt, even if it has been let go -/
  | attempt (generation : Nat)
  /-- the frame loop of a session goes on -/
  | tick (session : SessionId)
  /-- the last task is gone, and with it the table and the notices -/
  | finish
deriving Repr, DecidableEq

namespace System

/-! ## Sockets -/

/-- Whether a socket is to end without a word. -/
def cancelled (s : System) (k : Socket) : Bool := k.released || s.shutDown

/-- Whether the task of a socket can go on with its attempt. -/
def canAttempt (s : System) (k : Socket) : Bool :=
  match k.phase with
  | .spawned => true
  | .dialing _ due => due ≤ s.now
  | .running | .ended => false

/-- Whether the task of a socket can go on. -/
def canPoll (s : System) (k : Socket) : Bool :=
  match k.phase with
  | .spawned => true
  | .dialing _ due => s.cancelled k || due ≤ s.now
  | .running => !k.outbound.isEmpty || !k.inbound.isEmpty || s.cancelled k
  | .ended => false

/-- Ends the task of a socket and gives the socket back. -/
def endSocket (s : System) (k : Socket) : System :=
  (s.updateSocket k.generation fun k => { k with phase := .ended, outbound := [], inbound := [] })
    |>.observeSocket k .released

/-- Sends a report to the link, if the task that drives it still runs. -/
def report (s : System) (event : TransportEvent) : System :=
  if s.driving then { s with transport := s.transport ++ [event] } else s

/-- The device answers an attempt. -/
def answered (s : System) (k : Socket) : Answer → System
  | .refuse =>
    (s.endSocket k).report
      (.connectFailed k.generation (.connection k.url "refused by device" none))
  | .accept =>
    let number := s.device.accepted + 1
    let s := { s with device := { s.device with accepted := number } }
    let s := s.updateSocket k.generation fun k =>
      { k with phase := .running, number := some number }
    if s.driving then s.report (.connected k.generation)
    else s.endSocket { k with number := some number }

/-- Writes the oldest message that is queued. -/
def writeNext (s : System) (k : Socket) (message : WireMessage) : System :=
  if s.device.failWrites then
    (s.endSocket k).report (.closed k.generation (some (.transport "write failed" none)))
  else
    let s := s.updateSocket k.generation fun k => { k with outbound := k.outbound.drop 1 }
    match message with
    | .text text => s.observeSocket k (.wrote text)
    | .binary bytes => s.observeSocket k (.wroteBinary bytes)
    | .close => (s.observeSocket k .wroteClose).endSocket k

/-- Closes the writing half and ends. -/
def closeAndEnd (s : System) (k : Socket) : System := (s.observeSocket k .closed).endSocket k

/-- Reads the next arrival. -/
def readNext (s : System) (k : Socket) : Arrival → System
  | .message .close | .finished => (s.endSocket k).report (.closed k.generation none)
  | .failure error => (s.endSocket k).report (.closed k.generation (some error))
  | .message message =>
    let s := s.updateSocket k.generation fun k => { k with inbound := k.inbound.drop 1 }
    if s.driving then s.report (.message k.generation message) else s.endSocket k

/-- Starts an attempt, or ends it with the device's answer. -/
def attemptSocket (s : System) (k : Socket) : System :=
  match k.phase with
  | .spawned =>
    (s.updateSocket k.generation fun k =>
      { k with phase := .dialing s.device.answer (s.now + s.device.delay) })
      |>.observe (.attempt k.url)
  | .dialing answer _ => s.answered k answer
  | .running | .ended => s

/-- One step of the task of a socket. -/
def pollSocket (s : System) (k : Socket) : System :=
  match k.phase with
  | .ended => s
  | .spawned | .dialing _ _ => if s.cancelled k then s.endSocket k else s.attemptSocket k
  | .running =>
    match k.outbound, k.released, k.inbound with
    | message :: _, _, _ => s.writeNext k message
    | [], true, _ => s.closeAndEnd k
    | [], false, arrival :: _ => s.readNext k arrival
    | [], false, [] => s.closeAndEnd k

/-! ## Frame loops -/

/-- Whether a session has ended, or the whole client has. -/
def revoked (s : System) (session : SessionId) : Bool :=
  s.shutDown || s.streams.revoked.contains session

/-- Whether a frame loop can go on. -/
def canTick (s : System) (l : FrameLoop) : Bool :=
  s.revoked l.session || l.due ≤ s.now * nanosPerMilli

/-- Ends a frame loop. -/
def endLoop (s : System) (l : FrameLoop) : System :=
  { s with loops := s.loops.filter (·.session != l.session) }

/-- A frame loop waits for its next frame. -/
def rearmLoop (s : System) (l : FrameLoop) : System :=
  { s with loops := s.loops.map fun other =>
      if other.session == l.session then { other with due := other.due + other.period } else other }

/-- One step of a frame loop: it ends with its session, and displays one frame otherwise. -/
def tickLoop (s : System) (l : FrameLoop) : System :=
  if s.revoked l.session then s.endLoop l
  else
    match s.streams.find? l.channel with
    | none => s.endLoop l
    | some stream =>
      if s.revoked stream.session then s.endLoop l
      else
        match s.streams.render s.config.playback l.channel with
        | none => s.endLoop l
        | some (streams, shown, calls) =>
          let s := ({ s.rearmLoop l with streams }).observeCalls calls
          match shown with
          | some result => s.notify (.aligned result)
          | none => s

/-! ## Actions -/

/-- The earliest moment of the present step counts as due. -/
def timerDue (s : System) (timer : Timer) : Bool :=
  match s.link.deadline timer with
  | some due => due ≤ s.now
  | none => false

/-- Whether the console has come to its end. -/
def canFinish (s : System) : Bool :=
  s.dropped && !s.driving && s.loops.isEmpty && !s.finished

/-- Whether an action can be done. -/
def enabled (s : System) : Action → Bool
  | .stop => s.driving && s.shutDown
  | .command => s.driving && !s.commands.isEmpty
  | .transport => s.driving && !s.transport.isEmpty
  | .timer timer => s.driving && s.timerDue timer
  | .poll generation => (s.socket? generation).any s.canPoll
  | .attempt generation => (s.socket? generation).any s.canAttempt
  | .tick session => (s.loops.find? (·.session == session)).any s.canTick
  | .finish => s.canFinish

/-- Lets the link answer an input. -/
def answer (s : System) (input : Input) : System := s.commit (s.link.step s.config s.now input)

/-- Does an action.  One that is not enabled does nothing that a task could not do anyway. -/
def act (s : System) : Action → System
  | .stop => { s with driving := false, commands := [], transport := [] }.commit s.link.shutdown
  | .command =>
    match s.commands with
    | [] => s
    | command :: rest => { s with commands := rest }.answer (.command command)
  | .transport =>
    match s.transport with
    | [] => s
    | event :: rest => { s with transport := rest }.answer (.transport event)
  | .timer timer => s.answer (.timer timer)
  | .poll generation =>
    match s.socket? generation with
    | some k => s.pollSocket k
    | none => s
  | .attempt generation =>
    match s.socket? generation with
    | some k => s.attemptSocket k
    | none => s
  | .tick session =>
    match s.loops.find? (·.session == session) with
    | some l => s.tickLoop l
    | none => s
  | .finish =>
    let (streams, _, calls) := s.streams.deactivateAll
    ({ s with streams, finished := true }.observeCalls calls).observe (.endOfNotices s.now)

end System

end Lookout
