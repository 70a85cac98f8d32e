import Mathlib.Algebra.GroupWithZero.Nat
import Lookout.Proofs.Stream.Lifetime

/-!
# What is counted is reported

A stream counts the pictures that come to its decoder and the results that are let wait in it.  A
report reads both counters and sets them back, so the reports cut the calls that a session sees
into stretches.  What is read of a counter is how many of its events fell into the stretch before,
as far as a word can tell (`readings_eq`), and nothing else touches the counters
(`exists_counters_undergo`).  So if no stretch has more events than a word can tell, all that was
read and what has been counted since make up all events (`sum_of_readings`).

## Main definitions

* `TableCall.reads`, `TableCall.isPicture`, `TableCall.isResult` — what a call is to the counters.
* `readings` — what is read of a counter.
* `StreamTable.reported` — what is reported of a channel on a run.
* `StreamTable.Counted` — the account of a session.
-/

namespace Lookout

/-- Whether a decoder is told a payload of more than so many bytes. -/
def DecoderCall.isPicture (minLength : Nat) : DecoderCall → Bool
  | feed payload => minLength < payload.length
  | destroy => false

namespace TableCall

/-- Whether a call reads the counters and sets them back. -/
def reads : TableCall → Bool
  | takeStats => true
  | about _ | feed _ _ _ | deactivateAll | drop => false

/-- Whether a call brings a picture to a channel.  A payload that comes without a header brings
along how long a picture is. -/
def isPicture (minLength : Nat) (channel : ChannelId) : TableCall → Bool
  | about call => (call.payload? channel).any (minLength < ·.length)
  | feed other payload least => other == channel && least < payload.length
  | takeStats | deactivateAll | drop => false

/-- Whether a call brings a result to a channel. -/
def isResult (channel : ChannelId) : TableCall → Bool
  | about (.pushResult result) => result.channel == channel
  | about _ | feed _ _ _ | takeStats | deactivateAll | drop => false

/-- A counter of some events after a call. -/
def tally (event : TableCall → Bool) (count : Nat) (call : TableCall) : Nat :=
  if call.reads then 0 else if event call then countUp count else count

theorem isPicture_of_reads (minLength : Nat) (channel : ChannelId) (call : TableCall)
    (reads : call.reads = true) : call.isPicture minLength channel = false := by
  cases call with
  | takeStats => rfl
  | about | feed | deactivateAll | drop => cases reads

theorem isResult_of_reads (channel : ChannelId) (call : TableCall) (reads : call.reads = true) :
    call.isResult channel = false := by
  cases call with
  | takeStats => rfl
  | about | feed | deactivateAll | drop => cases reads

/-- A call that measures pictures as a table does, if it measures any. -/
def Measures (minLength : Nat) : TableCall → Prop
  | feed _ _ least => least = minLength
  | about _ | takeStats | deactivateAll | drop => True

end TableCall

/-! ## What is read of a counter -/

/-- What is read of a counter of some events during some calls, and what it has counted since. -/
def readings (event : TableCall → Bool) : Nat → List TableCall → List Nat
  | count, [] => [count]
  | count, call :: later =>
    (if call.reads then [count] else []) ++ readings event (call.tally event count) later

/-- What a word can tell of a number of events. -/
def capped (count : Nat) : Nat := min count (UInt32.size - 1)

theorem countUp_capped (count : Nat) : countUp (capped count) = capped (count + 1) := by
  simp only [countUp, capped]
  omega

theorem capped_of_lt {count : Nat} (few : count < UInt32.size) : capped count = count :=
  Nat.min_eq_left (Nat.le_sub_one_of_lt few)

theorem modifyHead_zero_add (counts : List Nat) : counts.modifyHead (0 + ·) = counts := by
  cases counts with
  | nil => rfl
  | cons count rest => rw [List.modifyHead_cons, Nat.zero_add]

/-- A counter that starts with some events is read as one that starts with none and sees them
first. -/
theorem readings_capped (event : TableCall → Bool) (count : Nat) (calls : List TableCall) :
    readings event (capped count) calls =
      (((calls.splitOnP TableCall.reads).map (List.countP event)).modifyHead (count + ·)).map
        capped := by
  induction calls generalizing count with
  | nil => rfl
  | cons call later ih =>
    rw [readings, List.splitOnP_cons_eq_if_modifyHead]
    cases reads : call.reads with
    | true =>
      have next : readings event 0 later = _ := ih 0
      rw [modifyHead_zero_add] at next
      simp [TableCall.tally, reads, next]
    | false =>
      obtain ⟨stretch, rest, cut⟩ :=
        List.exists_cons_of_ne_nil (List.splitOnP_ne_nil TableCall.reads later)
      cases counts : event call with
      | true =>
        simp [TableCall.tally, reads, counts, countUp_capped, ih, cut,
          Nat.add_right_comm, Nat.add_assoc]
      | false => simp [TableCall.tally, reads, counts, ih, cut]

/-- **What is read of a counter** that starts at zero: how many events there were since it was read
before, as far as a word can tell. -/
theorem readings_eq (event : TableCall → Bool) (calls : List TableCall) :
    readings event 0 calls =
      (calls.splitOnP TableCall.reads).map fun stretch => capped (stretch.countP event) := by
  have all : readings event 0 calls = _ := readings_capped event 0 calls
  rw [modifyHead_zero_add, List.map_map] at all
  exact all

theorem sum_countP_splitOnP {event : TableCall → Bool}
    (apart : ∀ call, call.reads = true → event call = false) (calls : List TableCall) :
    ((calls.splitOnP TableCall.reads).map (List.countP event)).sum = calls.countP event := by
  induction calls with
  | nil => rfl
  | cons call later ih =>
    rw [List.splitOnP_cons_eq_if_modifyHead, List.countP_cons, ← ih]
    cases reads : call.reads with
    | true => simp [apart call reads]
    | false =>
      obtain ⟨stretch, rest, cut⟩ :=
        List.exists_cons_of_ne_nil (List.splitOnP_ne_nil TableCall.reads later)
      simp only [cut, List.countP_cons, List.modifyHead_cons, List.map_cons, List.sum_cons,
        Bool.false_eq_true, if_false]
      omega

/-- If a word can tell how many events there were between any two readings, no event is lost. -/
theorem sum_of_readings {event : TableCall → Bool}
    (apart : ∀ call, call.reads = true → event call = false) {calls : List TableCall}
    {counts : List Nat} {last : Nat} (read : counts ++ [last] = readings event 0 calls)
    (few : ∀ stretch ∈ calls.splitOnP TableCall.reads, stretch.countP event < UInt32.size) :
    counts.sum + last = calls.countP event := by
  have told : (calls.splitOnP TableCall.reads).map (fun part => capped (part.countP event)) =
      (calls.splitOnP TableCall.reads).map (List.countP event) :=
    List.map_congr_left fun part member => capped_of_lt (few part member)
  calc counts.sum + last
      = (counts ++ [last]).sum := by rw [List.sum_append, List.sum_singleton]
    _ = calls.countP event := by rw [read, readings_eq, told, sum_countP_splitOnP apart]

namespace StreamTable

/-! ## What a call does to the counters -/

/-- What a call reports of a channel. -/
def reportedBy (t : StreamTable) (channel : ChannelId) : TableCall → List StreamStats
  | .takeStats => t.takeStats.2.filter (·.channel == channel)
  | .about _ | .feed _ _ _ | .deactivateAll | .drop => []

/-- What some calls report of a channel. -/
def reported (minLength : Nat) (p : Playback) (channel : ChannelId) :
    StreamTable → List TableCall → List StreamStats
  | _, [] => []
  | t, call :: later =>
    t.reportedBy channel call ++ reported minLength p channel (t.respond minLength p call).1 later

variable {minLength : Nat} {p : Playback} {t : StreamTable} {s s' : Stream} {call : TableCall}
  {channel : ChannelId} {session : SessionId}

/-- A stream after a call that keeps it, as far as its counters go. -/
structure Tallied (minLength : Nat) (channel : ChannelId) (call : TableCall) (s s' : Stream) :
    Prop where
  framesPlayed : s'.framesPlayed = call.tally (TableCall.isPicture minLength channel) s.framesPlayed
  resultsReceived : s'.resultsReceived = call.tally (TableCall.isResult channel) s.resultsReceived

theorem counters_latchEpoch (s : Stream) (time : Timestamp) :
    (s.latchEpoch time).1.framesPlayed = s.framesPlayed ∧
      (s.latchEpoch time).1.resultsReceived = s.resultsReceived := by
  simp only [Stream.latchEpoch]
  split <;> exact ⟨rfl, rfl⟩

theorem counters_render (p : Playback) (s : Stream) :
    (s.render p).1.framesPlayed = s.framesPlayed ∧
      (s.render p).1.resultsReceived = s.resultsReceived := by
  simp only [Stream.render]
  split <;> exact ⟨rfl, rfl⟩

theorem find?_takeStats (found : t.find? channel = some s) :
    t.takeStats.1.find? channel = some s.takeStats.1 := by
  simp only [find?, takeStats, List.find?_map]
  exact congrArg (Option.map fun s => s.takeStats.1) found

/-- The stream that is found on a channel is the only one there. -/
theorem filter_of_find? (distinct : t.Distinct) (found : t.find? channel = some s) :
    t.streams.filter (·.channel == channel) = [s] := by
  obtain ⟨front, back, split⟩ := exists_split distinct found
  have own : s.channel = channel := channel_of_find? found
  have none {others : List Stream} (part : ∀ other ∈ others, other ∈ front ++ back) :
      others.filter (·.channel == channel) = [] := by
    rw [List.filter_eq_nil_iff]
    intro other member
    simpa [own] using split.apart other (part other member)
  rw [split.streams_eq, List.filter_append, none fun other => List.mem_append_left _,
    List.filter_cons_of_pos (by simp [own]), none fun other => List.mem_append_right _]
  rfl

theorem reportedBy_takeStats (distinct : t.Distinct) (found : t.find? channel = some s) :
    t.reportedBy channel .takeStats = [s.takeStats.2] := by
  have stats_eq : t.reportedBy channel .takeStats =
      (t.streams.filter (·.channel == channel)).map fun s => s.takeStats.2 := List.filter_map
  rw [stats_eq, filter_of_find? distinct found]
  rfl

section
variable (minLength p)

/-- A call about a channel that does not end its session counts what it brings. -/
theorem reply_tallied {call : ChannelCall} (found : t.find? channel = some s)
    (own : call.address? = some channel) (steady : call.ends channel = false) :
    ∃ s', (t.reply minLength p call).table = t.update s' ∧ s'.seat = s.seat ∧
      Tallied minLength channel (.about call) s s' := by
  cases call with
  | activate other session player | deactivate other =>
    cases own
    simp [ChannelCall.ends] at steady
  | route raw =>
    cases decoded : Frame.decode raw with
    | error fault => simp [ChannelCall.address?, decoded, Except.toOption] at own
    | ok frame =>
      obtain rfl : frame.channel = channel := by
        simpa [ChannelCall.address?, decoded, Except.toOption] using own
      obtain ⟨played, received⟩ := counters_latchEpoch s frame.timestamp
      refine ⟨((s.latchEpoch frame.timestamp).1.feed frame.payload minLength).1, ?_,
        s.seat_latchEpoch frame.timestamp, ?_, ?_⟩
      · simp [reply, route, decoded, Except.map, deliver, found]
      · simp [TableCall.tally, TableCall.reads, TableCall.isPicture, ChannelCall.payload?, decoded,
          Except.toOption, Option.filter_some, Stream.feed, played]
      · simp [TableCall.tally, TableCall.reads, TableCall.isResult, Stream.feed, received]
  | latchEpoch other time =>
    cases own
    obtain ⟨played, received⟩ := counters_latchEpoch s time
    refine ⟨(s.latchEpoch time).1, ?_, s.seat_latchEpoch time, played, received⟩
    simp [reply, found]
  | pushResult result =>
    cases own
    refine ⟨s.pushResult result, ?_, rfl, rfl, ?_⟩
    · simp [reply, StreamTable.pushResult, found]
    · simp [TableCall.tally, TableCall.reads, TableCall.isResult, Stream.pushResult]
  | play other player =>
    cases own
    refine ⟨{ s with player }, ?_, rfl, rfl, rfl⟩
    simp [reply, found]
  | render other =>
    cases own
    obtain ⟨played, received⟩ := counters_render p s
    refine ⟨(s.render p).1, ?_, s.seat_render p, played, received⟩
    simp [reply, StreamTable.render, found]

/-- A call about another channel, or about none, counts nothing. -/
theorem tallied_of_other {call : ChannelCall} (other : call.address? ≠ some channel) (s : Stream) :
    Tallied minLength channel (.about call) s s where
  framesPlayed := by
    rw [TableCall.tally, TableCall.isPicture, (nothing_of_other other).2]
    rfl
  resultsReceived := by
    cases call with
    | pushResult result =>
      have apart : result.channel ≠ channel := by simpa [ChannelCall.address?] using other
      simp [TableCall.tally, TableCall.reads, TableCall.isResult, apart]
    | activate | deactivate | route | latchEpoch | play | render => rfl

/-- What a call that does not end the session of a channel does to its counters, and what it
reports of them. -/
theorem respond_tallied (distinct : t.Distinct) (found : t.find? channel = some s)
    (steady : call.ends channel = false) :
    (∃ s', (t.respond minLength p call).1.find? channel = some s' ∧
      Tallied minLength channel call s s') ∧
    t.reportedBy channel call = if call.reads then [s.takeStats.2] else [] := by
  cases call with
  | about call =>
    refine ⟨?_, rfl⟩
    by_cases own : call.address? = some channel
    · obtain ⟨s', table_eq, seat_eq, tallied⟩ := reply_tallied minLength p found own steady
      refine ⟨s', ?_, tallied⟩
      rw [respond, table_eq]
      exact find?_update_self found seat_eq
    · refine ⟨s, ?_, tallied_of_other minLength own s⟩
      exact (reply_other own).1.trans found
  | feed other payload least =>
    refine ⟨?_, rfl⟩
    by_cases own : other = channel
    · subst own
      refine ⟨(s.feed payload least).1, ?_, ?_, rfl⟩
      · simp only [respond, found]
        exact find?_update_self found rfl
      · simp [TableCall.tally, TableCall.reads, TableCall.isPicture, Stream.feed]
    · refine ⟨s, ?_, ?_, rfl⟩
      · simp only [respond]
        split
        · next s' there =>
          have there : s'.channel = other := channel_of_find? there
          have channel_eq : (s'.feed payload least).1.channel = other := there
          rw [find?_update, channel_eq, if_neg own]
          exact found
        · exact found
      · simp [TableCall.tally, TableCall.reads, TableCall.isPicture, own]
  | takeStats =>
    exact ⟨⟨s.takeStats.1, find?_takeStats found, rfl, rfl⟩, reportedBy_takeStats distinct found⟩
  | deactivateAll | drop => simp [TableCall.ends] at steady

/-- **What is reported of a session**, in calls that do not end it: each report says what was read
of the counters of its stream. -/
theorem exists_counters_undergo (distinct : t.Distinct) (found : t.find? channel = some s)
    {calls : List TableCall} (steady : ∀ call ∈ calls, call.ends channel = false) :
    ∃ s', (t.undergo minLength p calls).find? channel = some s' ∧
      (t.reported minLength p channel calls).map (·.framesPlayed) ++ [s'.framesPlayed] =
        readings (TableCall.isPicture minLength channel) s.framesPlayed calls ∧
      (t.reported minLength p channel calls).map (·.resultsReceived) ++ [s'.resultsReceived] =
        readings (TableCall.isResult channel) s.resultsReceived calls := by
  induction calls generalizing t s with
  | nil => exact ⟨s, found, rfl, rfl⟩
  | cons call later ih =>
    obtain ⟨⟨next, found_next, tallied⟩, reported_eq⟩ :=
      respond_tallied minLength p distinct found (steady call (.head _))
    have steady : ∀ other ∈ later, other.ends channel = false := by
      intro other member
      exact steady other (.tail _ member)
    obtain ⟨s', found', pictures, results⟩ :=
      ih (distinct_respond distinct call) found_next steady
    refine ⟨s', found', ?_, ?_⟩
    · rw [reported, readings, reported_eq, List.map_append, List.append_assoc, pictures,
        tallied.framesPlayed]
      cases call.reads <;> rfl
    · rw [reported, readings, reported_eq, List.map_append, List.append_assoc, results,
        tallied.resultsReceived]
      cases call.reads <;> rfl

end

/-- Pictures that come are pictures that the decoder is told. -/
theorem countP_isPicture {calls : List TableCall}
    (measured : ∀ call ∈ calls, call.Measures minLength) :
    ((calls.filterMap (·.payload? channel)).map .feed).countP (DecoderCall.isPicture minLength) =
      calls.countP (TableCall.isPicture minLength channel) := by
  have same : ∀ call ∈ calls, TableCall.isPicture minLength channel call =
      (call.payload? channel).any (minLength < ·.length) := by
    intro call member
    cases call with
    | feed other payload least =>
      obtain rfl : least = minLength := measured _ member
      by_cases own : other = channel <;> simp [TableCall.isPicture, TableCall.payload?, own]
    | about | takeStats | deactivateAll | drop => rfl
  rw [List.countP_map, List.countP_filterMap]
  refine List.countP_congr fun call member => ?_
  rw [same call member]
  cases call.payload? channel <;> rfl

/-! ## The account of a session -/

/-- The account of a session: what is reported of it while some calls are made, beside what its
decoder hears and what its stream has counted at the end. -/
structure Counted (minLength : Nat) (channel : ChannelId) (calls : List TableCall)
    (heard : List DecoderCall) (reports : List StreamStats) (s : Stream) : Prop where
  /-- a report tells the pictures since the one before, as far as a word can -/
  pictures : reports.map (·.framesPlayed) ++ [s.framesPlayed] =
    (calls.splitOnP TableCall.reads).map fun stretch =>
      capped (stretch.countP (TableCall.isPicture minLength channel))
  /-- a report tells the results since the one before, as far as a word can -/
  results : reports.map (·.resultsReceived) ++ [s.resultsReceived] =
    (calls.splitOnP TableCall.reads).map fun stretch =>
      capped (stretch.countP (TableCall.isResult channel))
  /-- as long as a word can, no picture that the decoder hears of is lost -/
  pictures_sum : (∀ stretch ∈ calls.splitOnP TableCall.reads,
      stretch.countP (TableCall.isPicture minLength channel) < UInt32.size) →
    (reports.map (·.framesPlayed)).sum + s.framesPlayed =
      heard.countP (DecoderCall.isPicture minLength)
  /-- as long as a word can, no result is lost -/
  results_sum : (∀ stretch ∈ calls.splitOnP TableCall.reads,
      stretch.countP (TableCall.isResult channel) < UInt32.size) →
    (reports.map (·.resultsReceived)).sum + s.resultsReceived =
      calls.countP (TableCall.isResult channel)

section
variable (alignment : Alignment) (minLength : Nat) (p : Playback) {before later : List TableCall}
  (channel : ChannelId) {session : SessionId} (player : Player)

/-- **Nothing is lost between the reports of a session.** -/
theorem counted_afterStart (apart : session ∉ started (before ++ later))
    (steady : ∀ call ∈ later, call.ends channel = false)
    (measured : ∀ call ∈ later, call.Measures minLength) :
    ∃ s, (afterStart alignment minLength p before later channel session player).find? channel =
        some s ∧ s.session = session ∧
      Counted minLength channel later
        (heardIn alignment minLength p before later channel session player)
        ((born alignment minLength p before channel session player).reported minLength p channel
          later) s := by
  obtain ⟨apart_before, apart_later⟩ := not_mem_started_append.1 apart
  have alive := alive_born alignment minLength p channel player apart_before
  have heard_eq := heardIn_eq alignment minLength p later channel player apart_before
  obtain ⟨lasting, heard_fed⟩ := alive.undergo minLength p steady apart_later
  have found := find?_born alignment minLength p before channel session player
  obtain ⟨s, found', pictures, results⟩ :=
    exists_counters_undergo minLength p alive.distinct found steady
  have own : s.session = session := by
    obtain ⟨other, there, own, -⟩ := lasting.exists_stream
    rw [found'] at there
    cases there
    exact own
  have pictures : _ = readings (TableCall.isPicture minLength channel) 0 later := pictures
  have results : _ = readings (TableCall.isResult channel) 0 later := results
  rw [afterStart_eq, heard_eq, heard_fed]
  refine ⟨s, found', own, ?_, ?_, ?_, ?_⟩
  · rw [pictures, readings_eq]
  · rw [results, readings_eq]
  · intro few
    rw [countP_isPicture measured]
    exact sum_of_readings (TableCall.isPicture_of_reads minLength channel) pictures few
  · intro few
    exact sum_of_readings (TableCall.isResult_of_reads channel) results few

end

end StreamTable
end Lookout
