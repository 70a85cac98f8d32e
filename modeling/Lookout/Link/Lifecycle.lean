import Lookout.Config.Basic

/-!
# The life of a link

A link is disconnected, connecting, open, or closing because the device has said so.  Every
attempt to connect has a number, its generation, so that what a former attempt still reports can be
told from what the present one does.  After a loss the link is tried again a limited number of
times, unless somebody has ended it.

## Main definitions

* `ConnectionState`, `Termination`, `CloseOutcome`.
* `Lifecycle` with `beginConnect`, `opened`, `serverClosing`, `superseded`, `userClose`, `closed`.
-/

namespace Lookout

/-- Where a link is in its life. -/
inductive ConnectionState where
  | disconnected
  | connecting
  | opened
  | closing
deriving Repr, DecidableEq

namespace ConnectionState

/-- All states, in the order of a life. -/
def all : List ConnectionState := [disconnected, connecting, opened, closing]

/-- The name of a state. -/
def name : ConnectionState → String
  | disconnected => "Disconnected"
  | connecting => "Connecting"
  | opened => "Open"
  | closing => "Closing"

end ConnectionState

/-- Why a link is not tried again. -/
inductive Termination where
  | userClosed
  | linkLost
  | superseded
deriving Repr, DecidableEq

/-- The name of a termination. -/
def Termination.name : Termination → String
  | userClosed => "UserClosed"
  | linkLost => "LinkLost"
  | superseded => "Superseded"

/-- What follows the end of a socket. -/
inductive CloseOutcome where
  /-- the socket was not the present one -/
  | stale
  /-- nothing has opened since the link was new or another console took it over, so it is not tried
  again -/
  | idle
  /-- the link is tried again after a wait -/
  | reconnect (attempt : Nat) (delay : Millis)
  /-- all attempts are used up -/
  | linkLost (attempts : Nat)
  /-- the link was ended on purpose -/
  | stopped (termination : Termination)
deriving Repr, DecidableEq

/-- How often and how soon a lost link is tried again. -/
structure ReconnectPolicy where
  interval : Millis
  maxAttempts : Nat
deriving Repr, DecidableEq

/-- The policy that a configuration asks for. -/
def ReconnectPolicy.ofConnection (c : Connection) : ReconnectPolicy :=
  ⟨c.reconnectInterval, c.reconnectAttempts⟩

/-- The life of a link so far. -/
structure Lifecycle where
  policy : ReconnectPolicy
  state : ConnectionState
  /-- number of the latest attempt to connect -/
  generation : Nat
  /-- whether a loss is answered by another attempt: from when the link opens until another console
  takes it over -/
  autoReconnect : Bool
  /-- attempts that followed a loss, since the link was last open or was started afresh -/
  attempts : Nat
  termination : Option Termination
deriving Repr, DecidableEq

namespace Lifecycle

/-- A link that has never been tried. -/
def new (policy : ReconnectPolicy) : Lifecycle where
  policy
  state := .disconnected
  generation := 0
  autoReconnect := false
  attempts := 0
  termination := none

/-- Whether somebody or something has ended the link for good. -/
def isTerminated (l : Lifecycle) : Bool := l.termination.isSome

/-- Whether a generation is the one that is being connected or connected. -/
def isCurrent (l : Lifecycle) (generation : Nat) : Bool :=
  generation == l.generation && l.state != .disconnected

/-- Starts an attempt from the disconnected state and gives its generation.  A link that had ended
starts afresh. -/
def beginConnect (l : Lifecycle) : Lifecycle × Option Nat :=
  if l.state = .disconnected then
    let next := l.generation + 1
    ({ l with
        state := .connecting
        generation := next
        attempts := if l.isTerminated then 0 else l.attempts
        termination := none },
      some next)
  else (l, none)

/-- The attempt has succeeded; says whether it was the present one. -/
def opened (l : Lifecycle) (generation : Nat) : Lifecycle × Bool :=
  if l.state = .connecting ∧ generation = l.generation then
    ({ l with state := .opened, autoReconnect := true, attempts := 0 }, true)
  else (l, false)

/-- The device has announced that it will close an open link. -/
def serverClosing (l : Lifecycle) : Lifecycle × Bool :=
  if l.state = .opened then ({ l with state := .closing }, true) else (l, false)

/-- Another console has taken over. -/
def superseded (l : Lifecycle) : Lifecycle :=
  { l with autoReconnect := false, termination := some .superseded }

/-- The user ends the link; says whether there is a socket to release. -/
def userClose (l : Lifecycle) : Lifecycle × Bool :=
  ({ l with termination := some .userClosed }, l.state != .disconnected)

/-- The socket of a generation has ended. -/
def closed (l : Lifecycle) (generation : Nat) : Lifecycle × CloseOutcome :=
  if l.isCurrent generation then
    let l := { l with state := .disconnected }
    match l.termination with
    | some termination => (l, .stopped termination)
    | none =>
      if !l.autoReconnect then (l, .idle)
      else if l.attempts < l.policy.maxAttempts then
        ({ l with attempts := l.attempts + 1 },
          .reconnect (l.attempts + 1) l.policy.interval)
      else ({ l with termination := some .linkLost }, .linkLost l.attempts)
  else (l, .stale)

end Lifecycle

end Lookout
