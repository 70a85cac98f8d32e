import Lookout.Link.Lifecycle
import Lookout.Link.Message

/-!
# The state of a link

The task that drives a link keeps the life of the link, the socket it holds, the messages that
wait for an open link, and its timers.  Each of these is a field of its own; that they fit together
is a law about what the task does with them.

A turn of the task is pure: it gives the next state and the effects, in order, that sockets,
streams and the application are to see.

## Main definitions

* `Timer`, `Link`, `Link.deadline`.
* `Effect`, `Turn`.
-/

namespace Lookout

/-- The timers of a link. -/
inductive Timer where
  /-- the next sign of life is due -/
  | heartbeat
  /-- the next attempt to connect is due -/
  | reconnect
  /-- the messages that wait are tried again -/
  | sendRetry
  /-- the device had time enough to close the link -/
  | closeGrace
  /-- statistics are due -/
  | metrics
deriving Repr, DecidableEq

/-- What the task that drives a link remembers.  A timer is the time at which it fires, or nothing
while it is not armed. -/
structure Link where
  lifecycle : Lifecycle
  /-- the state that the client sees -/
  published : ConnectionState
  /-- where the next attempt goes -/
  url : Option String
  /-- the socket that is held, by its generation -/
  socket : Option Nat
  /-- messages that wait for an open link, oldest first -/
  pending : List ControlMessage
  heartbeat : Option Millis
  reconnect : Option Millis
  sendRetry : Option Millis
  closeGrace : Option Millis
  metrics : Millis
  /-- when something last arrived -/
  lastInbound : Millis

/-- What a turn does to the rest of the console. -/
inductive Effect where
  /-- start a socket -/
  | dial (generation : Nat) (url : String)
  /-- queue a message for a socket -/
  | hand (generation : Nat) (message : WireMessage)
  /-- let a socket go -/
  | release (generation : Nat)
  | notify (notice : Notice)
  /-- stop all streams -/
  | endStreams
  /-- let a result wait on its channel -/
  | queueResult (result : Result)
  /-- give a binary message to its channel -/
  | deliver (raw : Bytes)
  /-- report and reset the counters of all streams -/
  | reportStreams

/-- The outcome of a turn. -/
structure Turn where
  link : Link
  effects : List Effect

namespace Link

/-- A link that has never been tried, at time 0. -/
def new (config : Config) : Link where
  lifecycle := .new (.ofConnection config.connection)
  published := .disconnected
  url := none
  socket := none
  pending := []
  heartbeat := none
  reconnect := none
  sendRetry := none
  closeGrace := none
  metrics := config.metrics.interval
  lastInbound := 0

/-- The state of the link. -/
abbrev state (l : Link) : ConnectionState := l.lifecycle.state

/-- When a timer fires. -/
def deadline (l : Link) : Timer → Option Millis
  | .heartbeat => l.heartbeat
  | .reconnect => l.reconnect
  | .sendRetry => l.sendRetry
  | .closeGrace => l.closeGrace
  | .metrics => some l.metrics

/-- A turn that changes nothing and does nothing. -/
def idle (l : Link) : Turn := ⟨l, []⟩

end Link

namespace Turn

/-- Adds an effect. -/
def also (t : Turn) (effect : Effect) : Turn := { t with effects := t.effects ++ [effect] }

/-- Adds a notice. -/
def notify (t : Turn) (notice : Notice) : Turn := t.also (.notify notice)

/-- Changes the state. -/
def update (t : Turn) (f : Link → Link) : Turn := { t with link := f t.link }

/-- Goes on with another turn. -/
def followedBy (t : Turn) (f : Link → Turn) : Turn :=
  let next := f t.link
  ⟨next.link, t.effects ++ next.effects⟩

end Turn

end Lookout
