import Lookout.Stream.Basic

/-!
# The streams of a console

At most one stream runs per channel.  Taking a stream out of the table is the whole of its
teardown: its decoder is destroyed and its session revoked, so that the loop which displays its
frames stops.

## Main definitions

* `StreamTable` with `activate`, `deactivate`, `deactivateAll`, `pushResult`, `takeStats`,
  `render`.
* `StreamTable.route` — delivers a binary message to its channel.
-/

namespace Lookout

/-- The running streams, ascending by channel, and the sessions that have ended. -/
structure StreamTable where
  alignment : Alignment
  streams : List Stream
  revoked : List SessionId

/-- What happened to a binary message. -/
inductive Delivery where
  /-- it went to its decoder; whether it set the epoch, and whether it counted -/
  | delivered (channel : ChannelId) (latched counted : Bool)
  /-- nobody listens on its channel -/
  | unbound (channel : ChannelId)

namespace StreamTable

/-- No stream runs. -/
def empty (alignment : Alignment) : StreamTable := ⟨alignment, [], []⟩

/-- The stream of a channel. -/
def find? (t : StreamTable) (channel : ChannelId) : Option Stream :=
  t.streams.find? (·.channel == channel)

/-- Puts a stream at its place. -/
def insertSorted (s : Stream) : List Stream → List Stream
  | [] => [s]
  | other :: rest =>
    if s.channel < other.channel then s :: other :: rest else other :: insertSorted s rest

/-- Replaces the stream of the same channel. -/
def update (t : StreamTable) (s : Stream) : StreamTable :=
  { t with streams := t.streams.map fun other => if other.channel == s.channel then s else other }

/-- Stops the stream of a channel; says whether there was one. -/
def deactivate (t : StreamTable) (channel : ChannelId) : StreamTable × Bool × List StreamCall :=
  match t.find? channel with
  | none => (t, false, [])
  | some s =>
    ({ t with
        streams := t.streams.filter (·.channel != channel)
        revoked := s.session :: t.revoked },
      true, [.destroy channel])

/-- Starts a session; one that runs on the channel is torn down first. -/
def activate (t : StreamTable) (channel : ChannelId) (session : SessionId) (player : Player) :
    StreamTable × List StreamCall :=
  let (t, _, calls) := t.deactivate channel
  ({ t with streams := insertSorted (.start t.alignment channel session player) t.streams }, calls)

/-- Stops all streams; says how many there were. -/
def deactivateAll (t : StreamTable) : StreamTable × Nat × List StreamCall :=
  ({ t with streams := [], revoked := t.streams.map (·.session) ++ t.revoked },
    t.streams.length, t.streams.map fun s => .destroy s.channel)

/-- Capture time of the first frame of a channel's present session. -/
def epoch (t : StreamTable) (channel : ChannelId) : Option Timestamp :=
  (t.find? channel).bind (·.epoch)

/-- Lets a result wait on its channel. -/
def pushResult (t : StreamTable) (r : Result) : Except Error StreamTable :=
  match t.find? r.channel with
  | none => .error (.channelInactive r.channel)
  | some s => .ok (t.update (s.pushResult r))

/-- Reads all counters and sets them back. -/
def takeStats (t : StreamTable) : StreamTable × List StreamStats :=
  ({ t with streams := t.streams.map fun s => s.takeStats.1 },
    t.streams.map fun s => s.takeStats.2)

/-- Delivers a frame to the stream of its channel.  The first frame sets the epoch. -/
def deliver (t : StreamTable) (minLength : Nat) (frame : Frame) :
    StreamTable × Delivery × List StreamCall :=
  match t.find? frame.channel with
  | none => (t, .unbound frame.channel, [])
  | some s =>
    let (s, latched) := s.latchEpoch frame.timestamp
    let (s, counted, calls) := s.feed frame.payload minLength
    (t.update s, .delivered frame.channel latched counted, calls)

/-- Delivers a binary message; one that is too short for its header leaves the table alone. -/
def route (t : StreamTable) (minLength : Nat) (raw : Bytes) :
    Except Truncated (StreamTable × Delivery × List StreamCall) :=
  (Frame.decode raw).map (t.deliver minLength)

/-- One displayed frame of a channel; nothing if no stream runs on it. -/
def render (t : StreamTable) (p : Playback) (channel : ChannelId) :
    Option (StreamTable × Option Result × List StreamCall) :=
  (t.find? channel).map fun s =>
    let (s, shown, calls) := s.render p
    (t.update s, shown, calls)

end StreamTable

end Lookout
