import Lookout.System.Schedule

/-!
# What the device does

The device sends on sockets that it has accepted, and hangs up.  What it sends is queued until the
task of the socket reads it.

## Main definitions

* `System.arrive` — something arrives on a socket.
* `System.hangUp` — the device hangs up.
* `System.play` — a player answers otherwise.
-/

namespace Lookout

namespace System

/-- An accepted socket by its number, or the newest one. -/
def accepted? (s : System) (number : Option Nat) : Option Socket :=
  s.sockets.find? (·.number == some (number.getD s.device.accepted))

/-- Something arrives on a socket, unless the device has hung up on it or the console has given it
back; says whether it does. -/
def arrive (s : System) (number : Option Nat) (arrival : Arrival) : System × Bool :=
  match s.accepted? number with
  | none => (s, false)
  | some k =>
    if k.hungUp || k.phase = .ended then (s, false)
    else (s.updateSocket k.generation fun k => { k with inbound := k.inbound ++ [arrival] }, true)

/-- The device hangs up on a socket; says whether it had not done so before. -/
def hangUp (s : System) (number : Option Nat) : System × Bool :=
  match s.accepted? number with
  | none => (s, false)
  | some k =>
    if k.hungUp then (s, false)
    else
      (s.updateSocket k.generation fun k =>
        { k with
          hungUp := true
          inbound := if k.phase = .ended then [] else k.inbound ++ [.finished] }, true)

/-- The player of a running stream answers otherwise from now on. -/
def play (s : System) (channel : ChannelId) (player : Player) : System :=
  match s.streams.find? channel with
  | some stream => { s with streams := s.streams.update { stream with player } }
  | none => s

end System

end Lookout
