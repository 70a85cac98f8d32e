import Mathlib
import Lookout.Proofs.Config.Validity
import Lookout.Stream.Basic

/-!
# The rate of a player

The rate of a session is kept twice, in the session and in its player, and the player is only told
what differs from what it was told before.  Between two frames everything else may change: the
player goes on, the stream gets its epoch, results come in.  So a frame is displayed at a `Moment`,
and a run of frames is a list of moments, first one first.

A frame first asks the player where it is and decides what to do about the gap, then tells it to
jump, then tells it a rate, and only then asks for the playhead that the target is computed from
(`Player.calls_advance`).  The player answers what it likes, the second time as the first; nothing
here rests on its doing what it is told.  As both rates of an accepted configuration are positive
numbers, rates that compare equal are equal (`eq_of_beq_of_isPositive`), and the two copies stay in
step over any run (`rate_law`).

## Main definitions

* `Moment`, `Stream.meet`, `Stream.afterFrames`, `Stream.toldIn` — runs of frames.
* `Moment.Controlled` — what a displayed frame does to the session and tells the player.
-/

namespace Lookout

/-- What a displayed frame finds: a player, the capture time of the first frame as far as there has
been one, and the results that wait. -/
structure Moment where
  player : Player
  epoch : Option Timestamp
  queue : MatchQueue Result

namespace PlayerCall

/-- The rate that a player is told. -/
def rate? : PlayerCall → Option Float
  | .rate value => some value
  | .seek _ => none

end PlayerCall

/-- What is told to a player. -/
def StreamCall.player? : StreamCall → Option PlayerCall
  | player _ call => some call
  | feed _ _ | destroy _ => none

/-- The last rate among some calls. -/
def lastRate? (calls : List PlayerCall) : Option Float :=
  (calls.filterMap PlayerCall.rate?).getLast?

namespace Stream

/-- A session at a moment.  Its rate is what it remembers itself. -/
def meet (s : Stream) (m : Moment) : Stream :=
  { s with player := m.player, epoch := m.epoch, queue := m.queue }

section
variable (p : Playback)

/-- What the player is told in a frame. -/
def frameCalls (s : Stream) : List PlayerCall := (s.render p).2.2.filterMap StreamCall.player?

/-- The session after frames at some moments. -/
def afterFrames (s : Stream) (moments : List Moment) : Stream :=
  moments.foldl (fun s m => ((s.meet m).render p).1) s

/-- What the player is told in frames at some moments. -/
def toldIn : Stream → List Moment → List PlayerCall
  | _, [] => []
  | s, m :: later => (s.meet m).frameCalls p ++ toldIn ((s.meet m).render p).1 later

end

end Stream

/-! ## The two rates -/

theorem isPositive_nominalRate : isPositive nominalRate = true := by decide

theorem ne_zero_of_isPositive {x : Float} (positive : isPositive x = true) : x ≠ 0 ∧ x ≠ -0 := by
  constructor
  · rintro rfl
    exact absurd positive (by decide)
  · rintro rfl
    exact absurd positive (by decide)

/-- A positive number compares equal to itself alone. -/
theorem eq_of_beq_of_isPositive {x y : Float} (positive : isPositive x = true)
    (same : (x == y) = true) : x = y := by
  obtain ⟨-, -, same | ⟨zero, -⟩ | ⟨zero, -⟩⟩ := Float.beq_iff_ne_nan_and_eq.1 same
  · exact same
  · exact absurd zero (ne_zero_of_isPositive positive).1
  · exact absurd zero (ne_zero_of_isPositive positive).2

theorem Playback.isPositive_rateFor {p : Playback} (catchUp : isPositive p.catchUpRate = true)
    (pace : Pace) : isPositive (p.rateFor pace) = true := by
  cases pace with
  | nominal | skip => exact isPositive_nominalRate
  | catchUp => exact catchUp

/-- A decision to jump is one to jump to the end of what is buffered. -/
theorem Playback.bufferedEnd_of_skip {p : Playback} {position target : Float}
    {bufferedEnd : Option Float} (skips : p.pace? position bufferedEnd = some (.skip target)) :
    bufferedEnd = some target := by
  obtain ⟨limit, rfl, decided⟩ := Option.map_eq_some_iff.1 skips
  dsimp only at decided
  split at decided
  · cases decided
  · split at decided
    · cases decided
    · cases decided
      rfl

/-! ## One frame -/

namespace Player

variable {p : Playback} {player : Player} {rate : Float} {epoch : Option Timestamp} {pace : Pace}

/-- The jump that goes with a decision. -/
def jumps : Pace → List Float
  | .skip target => [target]
  | .nominal | .catchUp => []

/-- The rate that is told: the one that is wanted, if it is not the one told before. -/
def tells (current next : Float) : List Float := if next != current then [next] else []

theorem advance_of_idle (idle : p.pace? player.position player.bufferedEnd = none) :
    (player.advance p rate epoch).rate = rate ∧ (player.advance p rate epoch).calls = [] := by
  rw [advance, idle]
  exact ⟨rfl, rfl⟩

/-- First the player is told to jump, and then it is told a rate. -/
theorem calls_advance (decided : p.pace? player.position player.bufferedEnd = some pace) :
    (player.advance p rate epoch).calls =
      (jumps pace).map .seek ++ (tells rate (p.rateFor pace)).map .rate := by
  rw [advance, decided]
  cases pace with
  | nominal | catchUp | skip =>
    simp only [correct, seekCalls, rateCalls, jumps, tells]
    split <;> rfl

theorem rate_advance (decided : p.pace? player.position player.bufferedEnd = some pace) :
    (player.advance p rate epoch).rate = (tells rate (p.rateFor pace)).getLast?.getD rate := by
  rw [advance, decided, tells]
  simp only [correct]
  split <;> rfl

/-- A rate that compares equal to the one that is wanted is the one that is wanted. -/
theorem rate_advance_eq (catchUp : isPositive p.catchUpRate = true)
    (decided : p.pace? player.position player.bufferedEnd = some pace) :
    (player.advance p rate epoch).rate = p.rateFor pace := by
  rw [rate_advance decided, tells]
  split
  · rfl
  · next same =>
    have same : (p.rateFor pace == rate) = true := by simpa [bne] using same
    exact (eq_of_beq_of_isPositive (Playback.isPositive_rateFor catchUp pace) same).symm

end Player

namespace PlayerCall

/-- The rates among some jumps and then some rates. -/
theorem filterMap_rate? (jumps rates : List Float) :
    (jumps.map seek ++ rates.map rate).filterMap rate? = rates := by
  have aside : (jumps.map seek).filterMap rate? = [] := by
    rw [List.filterMap_map, List.filterMap_eq_nil_iff]
    intro position _
    rfl
  have all : (rates.map rate).filterMap rate? = rates := by
    rw [List.filterMap_map]
    exact List.filterMap_some
  rw [List.filterMap_append, aside, all, List.nil_append]

/-- The jumps among some jumps and then some rates. -/
theorem filterMap_seek? (jumps rates : List Float) :
    (jumps.map seek ++ rates.map rate).filterMap seek? = jumps := by
  have all : (jumps.map seek).filterMap seek? = jumps := by
    rw [List.filterMap_map]
    exact List.filterMap_some
  have aside : (rates.map rate).filterMap seek? = [] := by
    rw [List.filterMap_map, List.filterMap_eq_nil_iff]
    intro rate _
    rfl
  rw [List.filterMap_append, aside, all, List.append_nil]

end PlayerCall

namespace Stream

variable {p : Playback} {s : Stream}

theorem frameCalls_eq (s : Stream) :
    s.frameCalls p = (s.player.advance p s.rate s.epoch).calls := by
  have told (calls : List PlayerCall) :
      (calls.map (StreamCall.player s.channel)).filterMap StreamCall.player? = calls := by
    rw [List.filterMap_map]
    exact List.filterMap_some
  rw [frameCalls, render]
  dsimp only
  split <;> exact told _

/-- The player is asked for its playhead again once it has been told everything. -/
theorem player_render (s : Stream) :
    (s.render p).1.player = (s.player.seen.told (s.frameCalls p)).did .askPosition := by
  rw [frameCalls_eq, render]
  dsimp only
  split <;> rfl

theorem target_advance (s : Stream) : (s.player.advance p s.rate s.epoch).target =
    s.epoch.map (targetTime (s.player.seen.told (s.frameCalls p)).position) := by
  rw [frameCalls_eq]
  rfl

theorem rate_render (s : Stream) :
    (s.render p).1.rate = (s.player.advance p s.rate s.epoch).rate := by
  rw [render]
  dsimp only
  split <;> rfl

/-- The queue is asked for what belongs to the target, as soon as there is one. -/
theorem shown_render (s : Stream) :
    ((s.render p).1.queue, (s.render p).2.1) =
      match s.epoch with
      | none => (s.queue, none)
      | some time =>
        s.queue.align (targetTime (s.player.seen.told (s.frameCalls p)).position time) := by
  have target := target_advance (p := p) s
  rw [render]
  cases epoch : s.epoch with
  | none =>
    rw [epoch] at target
    simp only [target, Option.map_none]
  | some time =>
    rw [epoch] at target
    simp only [target, Option.map_some]

theorem lastRate?_frameCalls (s : Stream) :
    (s.render p).1.rate = (lastRate? (s.frameCalls p)).getD s.rate := by
  rw [rate_render, frameCalls_eq, lastRate?]
  cases decided : p.pace? s.player.position s.player.bufferedEnd with
  | none =>
    rw [(Player.advance_of_idle decided).1, (Player.advance_of_idle decided).2]
    rfl
  | some pace =>
    rw [Player.calls_advance decided, Player.rate_advance decided, PlayerCall.filterMap_rate?]

/-! ## Runs of frames -/

theorem lastRate?_append (calls later : List PlayerCall) :
    lastRate? (calls ++ later) = (lastRate? later).or (lastRate? calls) := by
  rw [lastRate?, List.filterMap_append, List.getLast?_append]
  rfl

/-- The rate of a session is the last one that its player was told, or the one that it had. -/
theorem rate_afterFrames (s : Stream) (moments : List Moment) :
    (s.afterFrames p moments).rate = (lastRate? (s.toldIn p moments)).getD s.rate := by
  induction moments generalizing s with
  | nil => rfl
  | cons m later ih =>
    have first : ((s.meet m).render p).1.rate = _ := lastRate?_frameCalls (s.meet m)
    have rest := ih ((s.meet m).render p).1
    rw [toldIn, lastRate?_append, Option.getD_or, ← show (s.meet m).rate = s.rate from rfl, ← first]
    exact rest

end Stream

/-- What a displayed frame does to a session and tells its player, which was told the rate `last`
before. -/
structure Moment.Controlled (p : Playback) (last : Float) (m : Moment) (before after : Stream)
    (shown : Option Result) (told : List PlayerCall) : Prop where
  /-- at most one rate is told, and only one that differs from the one told before -/
  rates : told.filterMap PlayerCall.rate? = [] ∨
    ∃ rate, told.filterMap PlayerCall.rate? = [rate] ∧ (rate != last) = true
  /-- the player is told once to jump if the decision is to jump, and to the end of what is
  buffered, and is not told to otherwise -/
  seeks : told.filterMap PlayerCall.seek? =
    match p.pace? m.player.position m.player.bufferedEnd with
    | some (.skip _) => m.player.bufferedEnd.toList
    | some .nominal | some .catchUp | none => []
  /-- it is told to jump before it is told a rate -/
  order : told = (told.filterMap PlayerCall.seek?).map .seek ++
    (told.filterMap PlayerCall.rate?).map .rate
  /-- when nothing is buffered, it is told nothing -/
  idle : m.player.bufferedEnd = none → told = []
  /-- when something is, there is a decision, and its rate is the rate of the session afterwards -/
  rate_eq : ∀ limit, m.player.bufferedEnd = some limit →
    ∃ pace, p.pace? m.player.position (some limit) = some pace ∧ after.rate = p.rateFor pace
  /-- the player is asked for its playhead and its buffer, then told all this, and then asked for
  its playhead again -/
  player_eq : after.player = (m.player.seen.told told).did .askPosition
  /-- the target is that of the second answer; there is none as long as there is no epoch -/
  target_eq : (m.player.advance p before.rate m.epoch).target =
    m.epoch.map (targetTime (m.player.seen.told told).position)
  /-- what is shown is what the queue has for the target; without one it is left alone -/
  shown_eq : (after.queue, shown) =
    match m.epoch with
    | none => (m.queue, none)
    | some time => m.queue.align (targetTime (m.player.seen.told told).position time)
  /-- whether there is an epoch does not matter to the player and its rate -/
  aside : ∀ epoch,
    let other := (before.meet { m with epoch }).render p
    other.1.player = after.player ∧ other.1.rate = after.rate ∧
      (before.meet { m with epoch }).frameCalls p = told

namespace Stream

variable {p : Playback} {s : Stream}

theorem controlled (catchUp : isPositive p.catchUpRate = true) (s : Stream) (m : Moment) :
    m.Controlled p s.rate s ((s.meet m).render p).1 ((s.meet m).render p).2.1
      ((s.meet m).frameCalls p) := by
  have told : (s.meet m).frameCalls p = (m.player.advance p s.rate m.epoch).calls :=
    frameCalls_eq _
  have rate : ((s.meet m).render p).1.rate = (m.player.advance p s.rate m.epoch).rate :=
    rate_render _
  have player := player_render (p := p) (s.meet m)
  have target := target_advance (p := p) (s.meet m)
  have shown := shown_render (p := p) (s.meet m)
  have aside (epoch : Option Timestamp) :
      ((s.meet { m with epoch }).render p).1.player = ((s.meet m).render p).1.player ∧
      ((s.meet { m with epoch }).render p).1.rate = ((s.meet m).render p).1.rate ∧
      (s.meet { m with epoch }).frameCalls p = (s.meet m).frameCalls p := by
    rw [player_render, player_render, rate_render, rate_render, frameCalls_eq, frameCalls_eq]
    exact ⟨rfl, rfl, rfl⟩
  cases decided : p.pace? m.player.position m.player.bufferedEnd with
  | none =>
    have empty : m.player.bufferedEnd = none := Option.map_eq_none_iff.1 decided
    have silent : (s.meet m).frameCalls p = [] := by rw [told, (Player.advance_of_idle decided).2]
    refine ⟨?_, ?_, ?_, ?_, ?_, player, target, shown, aside⟩
    · exact .inl (by rw [silent]; rfl)
    · rw [silent, decided]
      rfl
    · rw [silent]
      rfl
    · exact fun _ => silent
    · intro limit there
      rw [empty] at there
      cases there
  | some pace =>
    rw [Player.calls_advance decided] at told
    have jumps : ((s.meet m).frameCalls p).filterMap PlayerCall.seek? = Player.jumps pace := by
      rw [told, PlayerCall.filterMap_seek?]
    have tells : ((s.meet m).frameCalls p).filterMap PlayerCall.rate? =
        Player.tells s.rate (p.rateFor pace) := by
      rw [told, PlayerCall.filterMap_rate?]
    refine ⟨?_, ?_, ?_, ?_, ?_, player, target, shown, aside⟩
    · rw [tells, Player.tells]
      split
      · next differs => exact .inr ⟨_, rfl, differs⟩
      · exact .inl rfl
    · rw [jumps, decided]
      cases pace with
      | nominal | catchUp => rfl
      | skip target =>
        rw [Playback.bufferedEnd_of_skip decided]
        rfl
    · rw [jumps, tells]
      exact told
    · intro empty
      rw [empty] at decided
      cases decided
    · intro limit there
      refine ⟨pace, there ▸ decided, ?_⟩
      rw [rate]
      exact Player.rate_advance_eq catchUp decided

/-- **The rate of a session and of its player stay in step**, whatever the player answers.  After
any frames of a session, at whatever moments, its rate is the last one that its player was told, or
the nominal one if it was told none.  The next frame tells the player at most one rate, and only one
that differs from that; it tells the player to jump once if the decision is to jump, to the end of
what is buffered and before it is told a rate; it tells nothing when nothing is buffered, and leaves
the session with the rate of its decision otherwise.  Only then is the player asked again for its
playhead, and it is this answer that the target is computed from.  There is a target if and only if
there is an epoch; without one nothing is shown and the queue stays as it is, but the player and its
rate are corrected in the same way. -/
theorem rate_law {config : Config} (valid : config.validate = .ok ()) (channel : ChannelId)
    (session : SessionId) (player : Player) (moments : List Moment) (m : Moment) :
    let p := config.playback
    let start := Stream.start config.alignment channel session player
    let s := start.afterFrames p moments
    let last := (lastRate? (start.toldIn p moments)).getD nominalRate
    s.rate = last ∧
      m.Controlled p last s ((s.meet m).render p).1 ((s.meet m).render p).2.1
        ((s.meet m).frameCalls p) := by
  intro p start s last
  have same : s.rate = last := rate_afterFrames start moments
  refine ⟨same, ?_⟩
  rw [← same]
  exact controlled (Config.catchUpRate_of_validate valid) s m

/-- The player is a second behind what is buffered, and no frame has come. -/
def behind : Moment := ⟨.obedient 2.0 (some 3.0), none, .empty 0 0⟩

/-- The player is six seconds behind what is buffered, and the first frame has come. -/
def farBehind : Moment := ⟨.obedient 1.0 (some 7.0), some 500, .empty 0 0⟩

/-- The player is six seconds behind what is buffered, and stays where it is. -/
def stuck : Moment :=
  ⟨{ positionAfter := fun _ => 1.0, bufferedEndAfter := fun _ => some 7.0 }, some 500, .empty 0 0⟩

/-- A session whose player catches up and then is told to jump.  It does, or it does not. -/
theorem rate_law_behind :
    ({} : Config).validate = .ok () ∧
    let s := (Stream.start {} 5 0 {}).afterFrames {} [behind]
    s.rate = 1.2 ∧
      (s.meet farBehind).frameCalls {} = [.seek 7.0, .rate nominalRate] ∧
      (farBehind.player.advance {} s.rate farBehind.epoch).target = some 7000500 ∧
      (s.meet stuck).frameCalls {} = [.seek 7.0, .rate nominalRate] ∧
      (stuck.player.advance {} s.rate stuck.epoch).target = some 1000500 := by
  have valid : ({} : Config).validate = .ok () := by rfl
  obtain ⟨same, jumped⟩ := rate_law valid 5 0 {} [behind] farBehind
  obtain ⟨-, stayed⟩ := rate_law valid 5 0 {} [behind] stuck
  exact ⟨valid, same.trans (by rfl), by rfl, jumped.target_eq.trans (by rfl), by rfl,
    stayed.target_eq.trans (by rfl)⟩

end Stream
end Lookout
