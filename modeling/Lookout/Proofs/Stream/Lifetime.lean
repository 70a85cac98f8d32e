import Lookout.Proofs.Stream.TableRun

/-!
# The life of a session

A session begins when it is activated and ends with the first call that ends the session of its
channel.  Its decoder is told the payloads that arrive in between and then, once, that it is over;
the same call takes the session out of the table and revokes it.  The capture time of the first
frame stays with the session as long as it lasts, and nothing of it passes to the next one
(`lifetime_law`).

## Main definitions

* `StreamTable.Alive`, `StreamTable.Absent` — a session runs on a channel, or nowhere.
* `StreamTable.Lifetime` — what becomes of a session that is started in some run.
-/

namespace Lookout
namespace StreamTable

variable {minLength : Nat} {p : Playback} {t : StreamTable} {call : TableCall}
  {channel : ChannelId} {session : SessionId}

/-! ## A session in a table -/

/-- A session runs on a channel, and nowhere else. -/
structure Alive (t : StreamTable) (channel : ChannelId) (session : SessionId)
    (epoch : Option Timestamp) : Prop where
  distinct : t.Distinct
  seated : ∀ other, t.session? other = some session ↔ other = channel
  epoch_eq : t.epoch channel = epoch
  live : session ∉ t.revoked

/-- A session runs nowhere. -/
structure Absent (t : StreamTable) (session : SessionId) : Prop where
  distinct : t.Distinct
  unseated : ∀ other, t.session? other ≠ some session

theorem absent_empty (alignment : Alignment) (session : SessionId) :
    (empty alignment).Absent session where
  distinct := List.nodup_nil
  unseated := by
    intro other
    exact nofun

/-- A session that is not started anew goes on where it is not ended. -/
theorem running_eq_some_iff {before : Option SessionId} (apart : call.start? ≠ some session) :
    call.running channel before = some session ↔
      before = some session ∧ call.ends channel = false := by
  cases call with
  | about call =>
    cases call with
    | activate other started player =>
      have apart : started ≠ session := by
        rintro rfl
        exact apart rfl
      by_cases own : other = channel <;>
        simp [TableCall.running, ChannelCall.running, TableCall.ends, ChannelCall.ends, own, apart]
    | deactivate other =>
      by_cases own : other = channel <;>
        simp [TableCall.running, ChannelCall.running, TableCall.ends, ChannelCall.ends, own]
    | route | latchEpoch | pushResult | play | render =>
      simp [TableCall.running, ChannelCall.running, TableCall.ends, ChannelCall.ends]
  | feed | takeStats | deactivateAll | drop => simp [TableCall.running, TableCall.ends]

namespace Absent

variable (minLength p) (absent : t.Absent session)
include absent

theorem hears_eq (told : List StreamCall) : t.hears session told = [] := by
  have none : told.filter (fun call => t.session? call.channel = some session) = [] := by
    rw [List.filter_eq_nil_iff]
    intro call _ hearing
    exact absent.unseated call.channel (of_decide_eq_true hearing)
  rw [hears, none]
  rfl

theorem respond (apart : call.start? ≠ some session) :
    (t.respond minLength p call).1.Absent session where
  distinct := distinct_respond absent.distinct call
  unseated := by
    intro other runs
    rw [session?_respond, running_eq_some_iff apart] at runs
    exact absent.unseated other runs.1

theorem mem_revoked_respond_iff (call : TableCall) :
    session ∈ (t.respond minLength p call).1.revoked ↔ session ∈ t.revoked := by
  rw [mem_revoked_respond absent.distinct]
  apply or_iff_right
  rintro ⟨channel, runs, -⟩
  exact absent.unseated channel runs

/-- A session that runs nowhere is not heard of, unless it is started. -/
theorem undergo {calls : List TableCall} (apart : session ∉ started calls) :
    (t.undergo minLength p calls).Absent session ∧
    (session ∈ (t.undergo minLength p calls).revoked ↔ session ∈ t.revoked) ∧
    t.heard minLength p session calls = [] := by
  induction calls generalizing t with
  | nil => exact ⟨absent, Iff.rfl, rfl⟩
  | cons call calls ih =>
    obtain ⟨first, rest⟩ := not_mem_started_cons.1 apart
    obtain ⟨gone, revoked_iff, silent⟩ := ih (absent.respond minLength p first) rest
    refine ⟨gone, revoked_iff.trans (absent.mem_revoked_respond_iff minLength p call), ?_⟩
    rw [heard, absent.hears_eq, List.nil_append]
    exact silent

/-- A session that is started has seen nothing. -/
theorem activate (fresh : session ∉ t.revoked) (channel : ChannelId) (player : Player) :
    (t.respond minLength p (.about (.activate channel session player))).1.Alive channel session
      none where
  distinct := distinct_respond absent.distinct _
  seated := by
    intro other
    rw [session?_respond]
    by_cases own : channel = other
    · simp [TableCall.running, ChannelCall.running, own]
    · simp [TableCall.running, ChannelCall.running, own, Ne.symm own, absent.unseated other]
  epoch_eq := by
    simp only [StreamTable.respond, reply, epoch, find?_activate]
    rw [if_pos trivial]
    rfl
  live := by
    rw [absent.mem_revoked_respond_iff]
    exact fresh

end Absent

namespace Alive

variable (minLength p) {latched : Option Timestamp} (alive : t.Alive channel session latched)
include alive

theorem exists_stream :
    ∃ s, t.find? channel = some s ∧ s.session = session ∧ s.epoch = latched := by
  obtain ⟨s, found, own⟩ := Option.map_eq_some_iff.1 ((alive.seated channel).2 rfl)
  refine ⟨s, found, own, ?_⟩
  have known := alive.epoch_eq
  rw [epoch, found] at known
  exact known

theorem hears_eq (told : List StreamCall) :
    t.hears session told =
      (told.filter (·.channel = channel)).filterMap StreamCall.decoder? := by
  have same : told.filter (fun call => t.session? call.channel = some session) =
      told.filter (·.channel = channel) := by
    refine List.filter_congr fun call _ => ?_
    rw [decide_eq_decide]
    exact alive.seated call.channel
  rw [hears, same]

/-- What a call does to a session that it does not end. -/
theorem respond (steady : call.ends channel = false) (apart : call.start? ≠ some session) :
    (t.respond minLength p call).1.Alive channel session (latched.or (call.time? channel)) ∧
    t.hears session (t.respond minLength p call).2 =
      (call.payload? channel).toList.map .feed := by
  obtain ⟨s, found, -, epoch_eq⟩ := alive.exists_stream
  obtain ⟨known, told_eq⟩ := respond_steady minLength p found steady
  refine ⟨⟨distinct_respond alive.distinct call, ?_, epoch_eq ▸ known, ?_⟩, ?_⟩
  · intro other
    rw [session?_respond, running_eq_some_iff apart, alive.seated]
    apply and_iff_left_of_imp
    rintro rfl
    exact steady
  · rw [mem_revoked_respond alive.distinct]
    rintro (⟨other, runs, ends⟩ | ended)
    · rw [(alive.seated other).1 runs, steady] at ends
      cases ends
    · exact alive.live ended
  · rw [alive.hears_eq]
    exact told_eq

/-- What a call does to a session that it ends. -/
theorem ended (ends : call.ends channel = true) (apart : call.start? ≠ some session) :
    (t.respond minLength p call).1.Absent session ∧
    session ∈ (t.respond minLength p call).1.revoked ∧
    t.hears session (t.respond minLength p call).2 = [.destroy] := by
  obtain ⟨s, found, -, -⟩ := alive.exists_stream
  refine ⟨⟨distinct_respond alive.distinct call, ?_⟩, ?_, ?_⟩
  · intro other runs
    rw [session?_respond, running_eq_some_iff apart, alive.seated] at runs
    rw [runs.1, ends] at runs
    cases runs.2
  · rw [mem_revoked_respond alive.distinct]
    exact .inl ⟨channel, (alive.seated channel).2 rfl, ends⟩
  · rw [alive.hears_eq, told_of_ends alive.distinct found ends]
    rfl

/-- What a session has seen and heard after calls that do not end it. -/
theorem undergo {calls : List TableCall} (steady : ∀ call ∈ calls, call.ends channel = false)
    (apart : session ∉ started calls) :
    (t.undergo minLength p calls).Alive channel session
      (latched.or (calls.filterMap (·.time? channel)).head?) ∧
    t.heard minLength p session calls = (calls.filterMap (·.payload? channel)).map .feed := by
  induction calls generalizing t latched with
  | nil => exact ⟨by rwa [List.filterMap_nil, List.head?_nil, Option.or_none], rfl⟩
  | cons call calls ih =>
    obtain ⟨first, rest⟩ := not_mem_started_cons.1 apart
    obtain ⟨next, now⟩ := alive.respond minLength p (steady call (.head _)) first
    have steady : ∀ other ∈ calls, other.ends channel = false := by
      intro other member
      exact steady other (.tail _ member)
    obtain ⟨lasting, then_heard⟩ := ih next steady rest
    constructor
    · have times : (latched.or (call.time? channel)).or (calls.filterMap (·.time? channel)).head? =
          latched.or ((call :: calls).filterMap (·.time? channel)).head? := by
        rw [Option.or_assoc, List.filterMap_cons]
        cases call.time? channel <;> rfl
      rw [← times]
      exact lasting
    · rw [heard, now, then_heard, List.filterMap_cons]
      cases call.payload? channel <;> rfl

/-- What has become of a session after a call that ends it, and whatever calls come then. -/
theorem undergo_gone {during rest : List TableCall}
    (steady : ∀ earlier ∈ during, earlier.ends channel = false) (ends : call.ends channel = true)
    (apart : session ∉ started (during ++ call :: rest)) :
    (t.undergo minLength p (during ++ call :: rest)).Absent session ∧
    session ∈ (t.undergo minLength p (during ++ call :: rest)).revoked ∧
    t.heard minLength p session (during ++ call :: rest) =
      (during.filterMap (·.payload? channel)).map .feed ++ [.destroy] := by
  obtain ⟨apart_during, apart⟩ := not_mem_started_append.1 apart
  obtain ⟨apart_call, apart_rest⟩ := not_mem_started_cons.1 apart
  obtain ⟨lasting, heard_fed⟩ := alive.undergo minLength p steady apart_during
  obtain ⟨gone, revoked, heard_end⟩ := lasting.ended minLength p ends apart_call
  obtain ⟨still_gone, revoked_iff, no_more⟩ := gone.undergo minLength p apart_rest
  rw [undergo_append, heard_append, heard_fed, heard, heard_end, no_more, List.append_nil]
  exact ⟨still_gone, revoked_iff.2 revoked, rfl⟩

end Alive

/-- To start a channel anew is to stop it and then to start it: all that is told is told by the
stop, and there is no stream on the channel between the two. -/
theorem respond_activate (t : StreamTable) (channel : ChannelId) (session : SessionId)
    (player : Player) :
    let start := TableCall.about (.activate channel session player)
    let stopped := t.respond minLength p (.about (.deactivate channel))
    stopped.1.session? channel = none ∧
    t.respond minLength p start = ((stopped.1.respond minLength p start).1, stopped.2) ∧
    (stopped.1.respond minLength p start).2 = [] := by
  intro start stopped
  have vacant : (t.deactivate channel).1.find? channel = none := by
    rw [find?_deactivate, if_pos rfl]
  have again : (t.deactivate channel).1.deactivate channel =
      ((t.deactivate channel).1, false, []) := by
    rw [deactivate.eq_def (t.deactivate channel).1, vacant]
  refine ⟨?_, ?_, ?_⟩
  · rw [session?_respond]
    simp [TableCall.running, ChannelCall.running]
  · simp only [start, stopped, respond, reply, activate, again]
  · simp only [start, stopped, respond, reply, activate, again]

/-! ## The whole life -/

section
variable (alignment : Alignment) (minLength : Nat) (p : Playback) (before later : List TableCall)
  (channel : ChannelId) (session : SessionId) (player : Player)

/-- A new table after a run in which a session is started. -/
def afterStart : StreamTable :=
  (empty alignment).undergo minLength p
    (before ++ .about (.activate channel session player) :: later)

/-- What the decoder of that session hears. -/
def heardIn : List DecoderCall :=
  (empty alignment).heard minLength p session
    (before ++ .about (.activate channel session player) :: later)

/-- The table right after the session has been started. -/
def born : StreamTable :=
  (((empty alignment).undergo minLength p before).respond minLength p
    (.about (.activate channel session player))).1

theorem afterStart_eq :
    afterStart alignment minLength p before later channel session player =
      (born alignment minLength p before channel session player).undergo minLength p later := by
  rw [afterStart, undergo_append]
  rfl

theorem find?_born :
    (born alignment minLength p before channel session player).find? channel =
      some (.start ((empty alignment).undergo minLength p before).alignment channel session
        player) :=
  (find?_activate ..).trans (if_pos rfl)

variable {before session}

theorem alive_born (apart : session ∉ started before) :
    (born alignment minLength p before channel session player).Alive channel session none := by
  obtain ⟨absent, revoked_iff, -⟩ :=
    (absent_empty alignment session).undergo minLength p apart
  refine absent.activate minLength p ?_ channel player
  rw [revoked_iff]
  exact List.not_mem_nil

/-- Nothing is heard before the session has been started, and nothing of its start. -/
theorem heardIn_eq (apart : session ∉ started before) :
    heardIn alignment minLength p before later channel session player =
      (born alignment minLength p before channel session player).heard minLength p session
        later := by
  obtain ⟨absent, -, silent⟩ :=
    (absent_empty alignment session).undergo minLength p apart
  rw [heardIn, heard_append, silent, heard, absent.hears_eq]
  rfl

variable (before session)

/-- The life of a session that is started in some run, which goes on with the calls `later`. -/
structure Lifetime : Prop where
  /-- it starts with nothing -/
  fresh : ∃ s, (afterStart alignment minLength p before [] channel session player).find? channel =
      some s ∧ s.session = session ∧ s.epoch = none ∧ s.queue.entries = [] ∧
      s.rate = nominalRate ∧ s.framesPlayed = 0 ∧ s.resultsReceived = 0
  /-- as long as no call ends it, it runs on its channel, has the first capture time that came, and
  its decoder has heard the payloads that came -/
  lasting : (∀ call ∈ later, call.ends channel = false) →
    let t := afterStart alignment minLength p before later channel session player
    (∃ s, t.find? channel = some s ∧ s.session = session ∧
      s.epoch = (later.filterMap (·.time? channel)).head?) ∧
    session ∉ t.revoked ∧
    heardIn alignment minLength p before later channel session player =
      (later.filterMap (·.payload? channel)).map .feed
  /-- from the first call that ends it, it runs nowhere and is revoked, and its decoder has heard
  in addition that it is over, once, and nothing since -/
  gone : ∀ during call rest, later = during ++ call :: rest →
    (∀ earlier ∈ during, earlier.ends channel = false) → call.ends channel = true →
    let t := afterStart alignment minLength p before later channel session player
    (∀ s ∈ t.streams, s.session ≠ session) ∧ session ∈ t.revoked ∧
    heardIn alignment minLength p before later channel session player =
      (during.filterMap (·.payload? channel)).map .feed ++ [.destroy]
  /-- a successor is put in only when the table has been left, and is told of nothing by that -/
  replaced : ∀ successor newPlayer,
    let t := afterStart alignment minLength p before later channel session player
    let start := TableCall.about (.activate channel successor newPlayer)
    let stopped := t.respond minLength p (.about (.deactivate channel))
    stopped.1.session? channel = none ∧
    t.respond minLength p start = ((stopped.1.respond minLength p start).1, stopped.2) ∧
    (stopped.1.respond minLength p start).2 = []

variable {before later session}

/-- **The life of a session.**  Whatever calls come before and after, a session that has a name of
its own starts with nothing.  Until a call ends it, its capture time is the first that came to its
channel, and its decoder hears the payloads that came.  The call that ends it takes it out of the
table, revokes it and tells its decoder once that it is over; afterwards its decoder hears
nothing.  A session that is replaced is out of the table before its successor is put in. -/
theorem lifetime_law (apart : session ∉ started (before ++ later)) :
    Lifetime alignment minLength p before later channel session player := by
  obtain ⟨apart_before, apart_later⟩ := not_mem_started_append.1 apart
  have alive := alive_born alignment minLength p channel player apart_before
  have heard_eq := heardIn_eq alignment minLength p later channel player apart_before
  refine ⟨?_, ?_, ?_, ?_⟩
  · have found := find?_born alignment minLength p before channel session player
    rw [afterStart_eq]
    exact ⟨_, found, rfl, rfl, rfl, rfl, rfl, rfl⟩
  · intro steady
    obtain ⟨lasting, heard_fed⟩ := alive.undergo minLength p steady apart_later
    rw [afterStart_eq, heard_eq]
    exact ⟨lasting.exists_stream, lasting.live, heard_fed⟩
  · intro during call rest later_eq steady ends
    subst later_eq
    obtain ⟨gone, revoked, heard_over⟩ := alive.undergo_gone minLength p steady ends apart_later
    rw [afterStart_eq, heard_eq]
    refine ⟨?_, revoked, heard_over⟩
    intro s member same
    apply gone.unseated s.channel
    rw [session?, gone.distinct.find?_eq member, ← same]
    rfl
  · intro successor newPlayer
    exact respond_activate _ channel successor newPlayer

end

/-- A frame of channel 5. -/
def rawFrame : Bytes := Frame.encode ⟨5, 7, [1, 2]⟩

/-- A session that replaces one and is replaced, and then the table is given up. -/
theorem lifetime_law_restarted :
    1 ∉ started [.about (.activate 5 0 {}), .about (.route rawFrame),
      .about (.latchEpoch 5 9), .about (.activate 5 2 {}), .drop] ∧
    heardIn {} 33 {} [.about (.activate 5 0 {})]
      [.about (.route rawFrame), .about (.latchEpoch 5 9), .about (.activate 5 2 {}), .drop]
      5 1 {} = [.feed [1, 2], .destroy] := by
  have apart : 1 ∉ started ([.about (.activate 5 0 {})] ++
      [.about (.route rawFrame), .about (.latchEpoch 5 9), .about (.activate 5 2 {}), .drop]) := by
    decide
  refine ⟨apart, ?_⟩
  refine ((lifetime_law {} 33 {} 5 {} apart).gone
    [.about (.route rawFrame), .about (.latchEpoch 5 9)] (.about (.activate 5 2 {})) [.drop] rfl
    ?_ rfl).2.2
  decide

end StreamTable
end Lookout
