import Lookout.Config.Basic

/-!
# Playback

The video of a channel is shown by a player, which the application brings along.  On every displayed
frame the console looks how far the player has fallen behind the end of what is buffered, corrects
its rate or position, and estimates when the picture on the screen was captured.

## Main definitions

* `targetTime` — the capture time of the picture at a playhead.
* `Pace`, `Playback.pace?`, `Playback.rateFor` — what to do about a gap.
* `Player` — a player, as far as it answers.
* `Player.advance` — one displayed frame.
-/

namespace Lookout

/-- The greatest time that the device's clock can show. -/
def lastTimestamp : Nat := UInt64.size - 1

/-- The capture time, in microseconds of the device's clock, of the picture at a playhead that is
`position` seconds behind the first frame.  Time stands still at both ends of the clock. -/
def targetTime (position : Float) (epoch : Timestamp) : Nat :=
  min (epoch.toNat + (position * 1000000.0).toUInt64.toNat) lastTimestamp

/-- The rate at which a second of video takes a second. -/
def nominalRate : Float := 1.0

/-- What to do about the gap between the playhead and the end of what is buffered. -/
inductive Pace where
  /-- a small gap: play at the nominal rate -/
  | nominal
  /-- a moderate gap: play faster -/
  | catchUp
  /-- a large gap: jump to the end -/
  | skip (target : Float)

namespace Playback

/-- What to do at a playhead; nothing as long as nothing is buffered. -/
def pace? (p : Playback) (position : Float) (bufferedEnd : Option Float) : Option Pace :=
  bufferedEnd.map fun bufferedEnd =>
    let gap := bufferedEnd - position
    if gap ≤ p.nominalGap then .nominal
    else if gap < p.skipGap then .catchUp
    else .skip bufferedEnd

/-- The rate that goes with a decision. -/
def rateFor (p : Playback) : Pace → Float
  | .catchUp => p.catchUpRate
  | .nominal | .skip _ => nominalRate

end Playback

/-- What a player is told. -/
inductive PlayerCall where
  | rate (rate : Float)
  | seek (position : Float)

/-- What a player is asked and told. -/
inductive PlayerAct where
  | askPosition
  | askBufferedEnd
  | tell (call : PlayerCall)

/-- The player of one channel, which is no part of the console.  All that is known of it is what it
answers, in seconds: where its playhead is, and where what is buffered ends.  Each answer may depend
on everything that it has been asked and told before, latest first; whether it does what it is told
is its own affair. -/
structure Player where
  positionAfter : List PlayerAct → Float := fun _ => 0.0
  bufferedEndAfter : List PlayerAct → Option Float := fun _ => none
  past : List PlayerAct := []

/-- What one displayed frame does to a player and to the rate it was last told. -/
structure Advance where
  player : Player
  rate : Float
  calls : List PlayerCall
  /-- capture time of the picture on the screen, once the stream has an epoch -/
  target : Option Nat

/-- The position that a player is told to jump to. -/
def PlayerCall.seek? : PlayerCall → Option Float
  | .seek position => some position
  | .rate _ => none

/-- The position that a player is told to jump to, if it is told so. -/
def PlayerAct.seek? : PlayerAct → Option Float
  | .tell call => call.seek?
  | .askPosition | .askBufferedEnd => none

namespace Player

/-- A player that jumps where it is told to, and does not move by itself. -/
def obedient (position : Float) (bufferedEnd : Option Float) : Player where
  positionAfter past := (past.findSome? PlayerAct.seek?).getD position
  bufferedEndAfter _ := bufferedEnd

/-- The player once it has been asked or told something. -/
def did (player : Player) (act : PlayerAct) : Player := { player with past := act :: player.past }

/-- The player once it has been told some things, first one first. -/
def told (player : Player) (calls : List PlayerCall) : Player :=
  calls.foldl (fun player call => player.did (.tell call)) player

/-- Where the player says that its playhead is, if it is asked now. -/
def position (player : Player) : Float := player.positionAfter player.past

/-- Where the player says that what is buffered ends, if it is asked for its playhead first. -/
def bufferedEnd (player : Player) : Option Float :=
  player.bufferedEndAfter (player.did .askPosition).past

/-- The player once it has been asked for its playhead and for what is buffered. -/
def seen (player : Player) : Player := (player.did .askPosition).did .askBufferedEnd

/-- The jump that goes with a decision. -/
def seekCalls : Pace → List PlayerCall
  | .skip target => [.seek target]
  | .nominal | .catchUp => []

/-- Tells a rate if it is not the one told before. -/
def rateCalls (current next : Float) : List PlayerCall :=
  if next != current then [.rate next] else []

/-- The rate after a decision, and what the player is told about it: to jump, and then the rate. -/
def correct (p : Playback) (rate : Float) : Option Pace → Float × List PlayerCall
  | none => (rate, [])
  | some pace =>
    let next := p.rateFor pace
    (if next != rate then next else rate, seekCalls pace ++ rateCalls rate next)

/-- One displayed frame: looks at the player, corrects it, and then asks for its playhead again.
That answer is the one that counts for the target. -/
def advance (p : Playback) (player : Player) (rate : Float) (epoch : Option Timestamp) : Advance :=
  let correction := correct p rate (p.pace? player.position player.bufferedEnd)
  let corrected := player.seen.told correction.2
  { player := corrected.did .askPosition
    rate := correction.1
    calls := correction.2
    target := epoch.map (targetTime corrected.position) }

end Player

end Lookout
