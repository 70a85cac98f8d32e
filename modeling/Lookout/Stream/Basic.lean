import Lookout.Playback
import Lookout.Result
import Lookout.Stream.Queue

/-!
# Streams

A stream is one session of a channel, from its start to its stop.  It knows the capture time of its
first frame, the results that wait, the player and the rate it was told, and it counts what
arrives.  Nothing of it survives into the next session of the channel.

## Main definitions

* `Stream` with `latchEpoch`, `feed`, `pushResult`, `takeStats`, `render`.
* `MediaCall`, `StreamCall` — what a stream tells its decoder and its player.
-/

namespace Lookout

instance : Timed Result where
  time r := r.timestamp.toNat

/-- The number of a session; every start of a stream has a new one. -/
abbrev SessionId := Nat

/-- One session of a channel. -/
structure Stream where
  channel : ChannelId
  session : SessionId
  /-- capture time of the first frame -/
  epoch : Option Timestamp
  queue : MatchQueue Result
  player : Player
  /-- the rate that the player was last told -/
  rate : Float
  framesPlayed : Nat
  resultsReceived : Nat

/-- What a channel tells its decoder and its player. -/
inductive StreamCall where
  | feed (channel : ChannelId) (payload : Bytes)
  | destroy (channel : ChannelId)
  | player (channel : ChannelId) (call : PlayerCall)

/-- What a channel has counted since the last report. -/
structure StreamStats where
  channel : ChannelId
  framesPlayed : Nat
  resultsReceived : Nat

/-- One more, but never more than fits a word of thirty-two bits. -/
def countUp (n : Nat) : Nat := min (n + 1) (UInt32.size - 1)

namespace Stream

/-- A session that has seen nothing yet. -/
def start (a : Alignment) (channel : ChannelId) (session : SessionId) (player : Player) :
    Stream where
  channel
  session
  epoch := none
  queue := .empty a.window a.pruneThreshold
  player
  rate := nominalRate
  framesPlayed := 0
  resultsReceived := 0

/-- Sets the epoch if it is not set; says whether it was not. -/
def latchEpoch (s : Stream) (time : Timestamp) : Stream × Bool :=
  match s.epoch with
  | some _ => (s, false)
  | none => ({ s with epoch := some time }, true)

/-- Hands a payload to the decoder; says whether it counts as a picture, which needs more than
`minLength` bytes. -/
def feed (s : Stream) (payload : Bytes) (minLength : Nat) : Stream × Bool × List StreamCall :=
  let counted := minLength < payload.length
  ({ s with framesPlayed := if counted then countUp s.framesPlayed else s.framesPlayed },
    counted, [.feed s.channel payload])

/-- Lets a result wait for its frame. -/
def pushResult (s : Stream) (r : Result) : Stream :=
  { s with resultsReceived := countUp s.resultsReceived, queue := s.queue.push r }

/-- Reads the counters and sets them back. -/
def takeStats (s : Stream) : Stream × StreamStats :=
  ({ s with framesPlayed := 0, resultsReceived := 0 },
    ⟨s.channel, s.framesPlayed, s.resultsReceived⟩)

/-- One displayed frame: corrects the player and takes out the result to show. -/
def render (p : Playback) (s : Stream) : Stream × Option Result × List StreamCall :=
  let moved := s.player.advance p s.rate s.epoch
  let calls := moved.calls.map (StreamCall.player s.channel)
  let s := { s with player := moved.player, rate := moved.rate }
  match moved.target with
  | none => (s, none, calls)
  | some target =>
    let (queue, shown) := s.queue.align target
    ({ s with queue }, shown, calls)

end Stream

end Lookout
