import Lookout.Proofs.Stream.Isolation

/-!
# Runs of a table

Some calls are about one channel and some are about all of them, and the table itself can be given
up.  A call may end the session that runs on a channel: it stops the channel, starts it anew, stops
all channels or gives the table up.  Such a call takes the session out of the table, revokes it and
tells its decoder that it is over (`session?_respond`, `mem_revoked_respond`, `told_of_ends`).  Any
other call leaves the session where it is, sets its capture time if it has none, and tells its
decoder what has come (`respond_steady`).

A decoder is bound to its session, so what is told to the decoder of a channel is heard by the one
of the session that runs there when the call is made.

## Main definitions

* `TableCall`, `StreamTable.respond`, `StreamTable.undergo` — calls about one channel or all.
* `TableCall.ends`, `TableCall.time?`, `TableCall.payload?` — what a call means to a session.
* `StreamTable.heard` — what the decoder of a session is told during a run.
-/

namespace Lookout

/-- One thing that is asked of a table of streams, about one channel or about all. -/
inductive TableCall where
  | about (call : ChannelCall)
  /-- bytes for the decoder of a channel, without a header -/
  | feed (channel : ChannelId) (payload : Bytes) (least : Nat)
  | takeStats
  | deactivateAll
  /-- the table itself is given up -/
  | drop

/-- What a decoder is told. -/
inductive DecoderCall where
  | feed (payload : Bytes)
  | destroy

/-- What of it is told to a decoder. -/
def StreamCall.decoder? : StreamCall → Option DecoderCall
  | feed _ payload => some (.feed payload)
  | destroy _ => some .destroy
  | player _ _ => none

namespace ChannelCall

/-- The session that a call starts. -/
def start? : ChannelCall → Option SessionId
  | activate _ session _ => some session
  | deactivate _ | route _ | latchEpoch _ _ | pushResult _ | play _ _ | render _ => none

/-- Whether a call ends the session that runs on a channel. -/
def ends (channel : ChannelId) : ChannelCall → Bool
  | activate other _ _ | deactivate other => other == channel
  | route _ | latchEpoch _ _ | pushResult _ | play _ _ | render _ => false

/-- The capture time that a call brings to a channel. -/
def time? (channel : ChannelId) : ChannelCall → Option Timestamp
  | route raw => ((Frame.decode raw).toOption.filter (·.channel == channel)).map (·.timestamp)
  | latchEpoch other time => if other = channel then some time else none
  | activate _ _ _ | deactivate _ | pushResult _ | play _ _ | render _ => none

end ChannelCall

namespace TableCall

/-- The session that a call starts. -/
def start? : TableCall → Option SessionId
  | about call => call.start?
  | feed _ _ _ | takeStats | deactivateAll | drop => none

/-- Whether a call ends the session that runs on a channel. -/
def ends (channel : ChannelId) : TableCall → Bool
  | about call => call.ends channel
  | feed _ _ _ | takeStats => false
  | deactivateAll | drop => true

/-- The capture time that a call brings to a channel. -/
def time? (channel : ChannelId) : TableCall → Option Timestamp
  | about call => call.time? channel
  | feed _ _ _ | takeStats | deactivateAll | drop => none

/-- What a call brings to the decoder of a channel. -/
def payload? (channel : ChannelId) : TableCall → Option Bytes
  | about call => call.payload? channel
  | feed other payload _ => if other = channel then some payload else none
  | takeStats | deactivateAll | drop => none

/-- The session that runs on a channel after a call. -/
def running (channel : ChannelId) (before : Option SessionId) : TableCall → Option SessionId
  | about call => call.running channel before
  | feed _ _ _ | takeStats => before
  | deactivateAll | drop => none

end TableCall

namespace StreamTable

section
variable (minLength : Nat) (p : Playback)

/-- The table after a call, and what decoders and players are told. -/
def respond (t : StreamTable) : TableCall → StreamTable × List StreamCall
  | .about call => ((t.reply minLength p call).table, (t.reply minLength p call).told)
  | .feed channel payload least =>
    match t.find? channel with
    | some s => (t.update (s.feed payload least).1, (s.feed payload least).2.2)
    | none => (t, [])
  | .takeStats => (t.takeStats.1, [])
  | .deactivateAll | .drop => (t.deactivateAll.1, t.deactivateAll.2.2)

/-- The sessions that some calls start. -/
def started (calls : List TableCall) : List SessionId := calls.filterMap TableCall.start?

/-- The table after some calls. -/
def undergo (t : StreamTable) (calls : List TableCall) : StreamTable :=
  calls.foldl (fun t call => (t.respond minLength p call).1) t

/-- The session that runs on a channel. -/
def session? (t : StreamTable) (channel : ChannelId) : Option SessionId :=
  (t.find? channel).map (·.session)

/-- What the decoder of a session hears of what is told in a table: what is told to the channel
where the session runs. -/
def hears (t : StreamTable) (session : SessionId) (told : List StreamCall) : List DecoderCall :=
  (told.filter fun call => t.session? call.channel = some session).filterMap StreamCall.decoder?

/-- What the decoder of a session hears during some calls. -/
def heard (session : SessionId) : StreamTable → List TableCall → List DecoderCall
  | _, [] => []
  | t, call :: later =>
    t.hears session (t.respond minLength p call).2 ++
      heard session (t.respond minLength p call).1 later

end

variable {minLength : Nat} {p : Playback} {t : StreamTable} {s s' : Stream} {call : TableCall}
  {channel : ChannelId} {session : SessionId}

theorem not_mem_started_append {calls later : List TableCall} :
    session ∉ started (calls ++ later) ↔ session ∉ started calls ∧ session ∉ started later := by
  rw [started, List.filterMap_append, List.mem_append, not_or]
  rfl

theorem not_mem_started_cons {calls : List TableCall} :
    session ∉ started (call :: calls) ↔
      call.start? ≠ some session ∧ session ∉ started calls := by
  simp [started, List.mem_filterMap]

theorem undergo_append (t : StreamTable) (calls later : List TableCall) :
    t.undergo minLength p (calls ++ later) =
      (t.undergo minLength p calls).undergo minLength p later :=
  List.foldl_append

theorem heard_append (t : StreamTable) (calls later : List TableCall) :
    t.heard minLength p session (calls ++ later) =
      t.heard minLength p session calls ++
        (t.undergo minLength p calls).heard minLength p session later := by
  induction calls generalizing t with
  | nil => rfl
  | cons call calls ih =>
    rw [List.cons_append, heard, ih, heard, List.append_assoc]
    rfl

/-! ## Who runs where -/

theorem session?_respond (t : StreamTable) (call : TableCall) (channel : ChannelId) :
    (t.respond minLength p call).1.session? channel =
      call.running channel (t.session? channel) := by
  cases call with
  | about call => exact session_reply t call channel
  | feed other payload least =>
    simp only [respond, TableCall.running]
    split
    · next s found =>
      have own : s.channel = other := channel_of_find? found
      have channel_eq : (s.feed payload least).1.channel = s.channel := rfl
      rw [session?, find?_update, channel_eq]
      split
      · next same =>
        rw [session?, ← same, own, found]
        rfl
      · rfl
    · rfl
  | takeStats =>
    simp only [respond, TableCall.running, session?, find?, takeStats, List.find?_map,
      Option.map_map]
    rfl
  | deactivateAll | drop => rfl

/-- Calls that neither start nor stop a session leave all of them alone. -/
theorem seats_of_steady {call : ChannelCall} (distinct : t.Distinct)
    (starts : ∀ channel session player, call ≠ .activate channel session player)
    (stops : ∀ channel, call ≠ .deactivate channel) :
    (t.reply minLength p call).table.running = t.running ∧
      (t.reply minLength p call).table.revoked = t.revoked := by
  rcases table_of_steady starts stops with kept | ⟨own, s, s', found, seat_eq, table_eq⟩
  · rw [kept]
    exact ⟨rfl, rfl⟩
  · rw [table_eq]
    exact ⟨running_update distinct found seat_eq, rfl⟩

theorem distinct_deactivate (distinct : t.Distinct) (channel : ChannelId) :
    (t.deactivate channel).1.Distinct := by
  rw [Distinct, running_deactivate]
  exact (List.filter_sublist.map _).nodup distinct

theorem distinct_activate (distinct : t.Distinct) (channel : ChannelId) (session : SessionId)
    (player : Player) : (t.activate channel session player).1.Distinct := by
  have perm := (t.running_activate channel session player).map (·.1)
  have vacant : channel ∉ (t.deactivate channel).1.running.map (·.1) := by
    rw [running_deactivate]
    simp
  exact perm.nodup_iff.2 (List.nodup_cons.2 ⟨vacant, distinct_deactivate distinct channel⟩)

/-- No call gives a channel a second stream. -/
theorem distinct_respond (distinct : t.Distinct) (call : TableCall) :
    (t.respond minLength p call).1.Distinct := by
  cases call with
  | about call =>
    cases call with
    | activate channel session player =>
      exact distinct_activate distinct channel session player
    | deactivate channel => exact distinct_deactivate distinct channel
    | route | latchEpoch | pushResult | play | render =>
      rw [Distinct, respond, (seats_of_steady distinct (by simp) (by simp)).1]
      exact distinct
  | feed channel payload least =>
    simp only [respond]
    split
    · next s found =>
      have kept : (t.update (s.feed payload least).1).running = t.running :=
        running_update distinct found rfl
      rw [Distinct, kept]
      exact distinct
    · exact distinct
  | takeStats =>
    rw [Distinct, respond, running_takeStats]
    exact distinct
  | deactivateAll | drop => exact List.nodup_nil

theorem revoked_deactivate_eq (t : StreamTable) (channel : ChannelId) :
    (t.deactivate channel).1.revoked = (t.session? channel).toList ++ t.revoked := by
  simp only [deactivate, session?]
  cases t.find? channel <;> rfl

/-- A session is revoked by the call that ends it, and by no other. -/
theorem mem_revoked_respond (distinct : t.Distinct) (call : TableCall) :
    session ∈ (t.respond minLength p call).1.revoked ↔
      (∃ channel, t.session? channel = some session ∧ call.ends channel = true) ∨
        session ∈ t.revoked := by
  cases call with
  | about call =>
    cases call with
    | activate other | deactivate other =>
      simp only [respond, reply, activate, revoked_deactivate_eq, List.mem_append,
        Option.mem_toList, TableCall.ends, ChannelCall.ends, beq_iff_eq]
      apply or_congr_left
      constructor
      · intro runs
        exact ⟨other, runs, rfl⟩
      · rintro ⟨channel, runs, rfl⟩
        exact runs
    | route | latchEpoch | pushResult | play | render =>
      rw [respond, (seats_of_steady distinct (by simp) (by simp)).2]
      simp [TableCall.ends, ChannelCall.ends]
  | feed other payload least =>
    have kept : (t.respond minLength p (.feed other payload least)).1.revoked = t.revoked := by
      simp only [respond]
      split <;> rfl
    simp [kept, TableCall.ends]
  | takeStats => simp [respond, takeStats, TableCall.ends]
  | deactivateAll | drop =>
    simp only [respond, deactivateAll, List.mem_append, List.mem_map, TableCall.ends, and_true]
    apply or_congr_left
    constructor
    · rintro ⟨s, member, rfl⟩
      exact ⟨s.channel, by rw [session?, distinct.find?_eq member]; rfl⟩
    · rintro ⟨channel, runs⟩
      obtain ⟨s, found, rfl⟩ := Option.map_eq_some_iff.1 runs
      exact ⟨s, mem_of_find? found, rfl⟩

/-! ## What a call means to the stream of a channel -/

theorem find?_update_self (found : t.find? channel = some s) (own : s'.seat = s.seat) :
    (t.update s').find? channel = some s' := by
  have same : s'.channel = channel := (congrArg Prod.fst own).trans (channel_of_find? found)
  rw [find?_update, if_pos same, found]
  rfl

theorem epoch_latchEpoch (s : Stream) (time : Timestamp) :
    (s.latchEpoch time).1.epoch = s.epoch.or (some time) := by
  simp only [Stream.latchEpoch]
  split
  · next known =>
    rw [known]
    rfl
  · next unknown =>
    rw [unknown]
    rfl

theorem epoch_render (s : Stream) : (s.render p).1.epoch = s.epoch := by
  simp only [Stream.render]
  split <;> rfl

section
variable (minLength p)

/-- A call about a channel that does not end its session changes the stream there, gives it a
capture time if it has none, and tells its decoder the payload that came. -/
theorem reply_steady {call : ChannelCall} (found : t.find? channel = some s)
    (own : call.address? = some channel) (steady : call.ends channel = false) :
    ∃ s', (t.reply minLength p call).table = t.update s' ∧ s'.seat = s.seat ∧
      s'.epoch = s.epoch.or (call.time? channel) ∧
      (t.reply minLength p call).told.filterMap StreamCall.decoder? =
        (call.payload? channel).toList.map .feed := by
  cases call with
  | activate other session player | deactivate other =>
    cases own
    simp [ChannelCall.ends] at steady
  | route raw =>
    cases decoded : Frame.decode raw with
    | error fault => simp [ChannelCall.address?, decoded, Except.toOption] at own
    | ok frame =>
      obtain rfl : frame.channel = channel := by
        simpa [ChannelCall.address?, decoded, Except.toOption] using own
      refine ⟨((s.latchEpoch frame.timestamp).1.feed frame.payload minLength).1, ?_,
        s.seat_latchEpoch frame.timestamp, ?_, ?_⟩
      · simp [reply, route, decoded, Except.map, deliver, found]
      · simp [ChannelCall.time?, decoded, Except.toOption, Option.filter_some, Stream.feed,
          epoch_latchEpoch]
      · simp [reply, route, decoded, Except.map, deliver, found, Stream.feed,
          StreamCall.decoder?, ChannelCall.payload?, Except.toOption, Option.filter_some]
  | latchEpoch other time =>
    cases own
    refine ⟨(s.latchEpoch time).1, ?_, s.seat_latchEpoch time, ?_, ?_⟩
    · simp [reply, found]
    · simp [ChannelCall.time?, epoch_latchEpoch]
    · simp [reply, found, ChannelCall.payload?]
  | pushResult result =>
    cases own
    refine ⟨s.pushResult result, ?_, rfl, ?_, ?_⟩
    · simp [reply, StreamTable.pushResult, found]
    · simp [Stream.pushResult, ChannelCall.time?]
    · simp [reply, StreamTable.pushResult, found, ChannelCall.payload?]
  | play other player =>
    cases own
    refine ⟨{ s with player }, ?_, rfl, ?_, ?_⟩
    · simp [reply, found]
    · simp [ChannelCall.time?]
    · simp [reply, found, ChannelCall.payload?]
  | render other =>
    cases own
    obtain ⟨calls, told⟩ := told_render (p := p) s
    refine ⟨(s.render p).1, ?_, s.seat_render p, ?_, ?_⟩
    · simp [reply, StreamTable.render, found]
    · simp [epoch_render, ChannelCall.time?]
    · simp [reply, StreamTable.render, found, told, ChannelCall.payload?, List.filterMap_map,
        Function.comp_def, StreamCall.decoder?]

end

/-- A call about another channel, or about none, brings nothing. -/
theorem nothing_of_other {call : ChannelCall} (other : call.address? ≠ some channel) :
    call.time? channel = none ∧ call.payload? channel = none := by
  cases call with
  | route raw =>
    cases decoded : Frame.decode raw with
    | error fault => simp [ChannelCall.time?, ChannelCall.payload?, decoded, Except.toOption]
    | ok frame =>
      have apart : frame.channel ≠ channel := by
        simpa [ChannelCall.address?, decoded, Except.toOption] using other
      simp [ChannelCall.time?, ChannelCall.payload?, decoded, Except.toOption,
        Option.filter_some, apart]
  | latchEpoch own time =>
    have apart : own ≠ channel := by simpa [ChannelCall.address?] using other
    exact ⟨if_neg apart, rfl⟩
  | activate | deactivate | pushResult | play | render => exact ⟨rfl, rfl⟩

/-- What a call that does not end the session of a channel does to the stream there, and tells its
decoder. -/
theorem respond_steady (minLength : Nat) (p : Playback) (found : t.find? channel = some s)
    (steady : call.ends channel = false) :
    (t.respond minLength p call).1.epoch channel = s.epoch.or (call.time? channel) ∧
    ((t.respond minLength p call).2.filter (·.channel = channel)).filterMap
      StreamCall.decoder? = (call.payload? channel).toList.map .feed := by
  have same : s.channel = channel := channel_of_find? found
  cases call with
  | about call =>
    by_cases own : call.address? = some channel
    · obtain ⟨s', table_eq, seat_eq, epoch_eq, told_eq⟩ :=
        reply_steady minLength p found own steady
      have all : (t.reply minLength p call).told.filter (·.channel = channel) =
          (t.reply minLength p call).told := by
        rw [List.filter_eq_self]
        simpa using channel_of_told own
      constructor
      · rw [respond, epoch, table_eq, find?_update_self found seat_eq]
        exact epoch_eq
      · rw [respond, all]
        exact told_eq
    · obtain ⟨time_eq, payload_eq⟩ := nothing_of_other own
      have kept : (t.reply minLength p call).table.find? channel = t.find? channel :=
        (reply_other own).1
      have none : (t.reply minLength p call).told.filter (·.channel = channel) = [] := by
        rw [List.filter_eq_nil_iff]
        simpa using (reply_other own).2
      constructor
      · rw [respond, epoch, kept, found, TableCall.time?, time_eq, Option.or_none]
        rfl
      · rw [respond, none, TableCall.payload?, payload_eq]
        rfl
  | feed other payload least =>
    simp only [respond, TableCall.time?, TableCall.payload?, Option.or_none]
    by_cases own : other = channel
    · subst own
      simp only [found]
      constructor
      · have seat_eq : (s.feed payload least).1.seat = s.seat := rfl
        rw [epoch, find?_update_self found seat_eq]
        rfl
      · simp [Stream.feed, StreamCall.channel, StreamCall.decoder?, same]
    · split
      · next s' there =>
        have there : s'.channel = other := channel_of_find? there
        have apart : s'.channel ≠ channel := there ▸ own
        constructor
        · have channel_eq : (s'.feed payload least).1.channel = s'.channel := rfl
          rw [epoch, find?_update, channel_eq, if_neg apart, found]
          rfl
        · simp [Stream.feed, StreamCall.channel, apart, own]
      · simp [epoch, found, own]
  | takeStats =>
    have kept : t.takeStats.1.find? channel = some s.takeStats.1 := by
      simp only [find?, takeStats, List.find?_map]
      exact congrArg (Option.map fun s => s.takeStats.1) found
    constructor
    · rw [respond, epoch, kept, TableCall.time?, Option.or_none]
      rfl
    · simp [respond, TableCall.payload?]
  | deactivateAll | drop => simp [TableCall.ends] at steady

/-- A call that ends the session of a channel tells its decoder so, and nothing else. -/
theorem told_of_ends (distinct : t.Distinct) (found : t.find? channel = some s)
    (ends : call.ends channel = true) :
    (t.respond minLength p call).2.filter (·.channel = channel) = [.destroy channel] := by
  cases call with
  | about call =>
    cases call with
    | activate other | deactivate other =>
      obtain rfl : other = channel := by simpa [TableCall.ends, ChannelCall.ends] using ends
      simp [respond, reply, activate, told_deactivate, found, StreamCall.channel]
    | route | latchEpoch | pushResult | play | render =>
      simp [TableCall.ends, ChannelCall.ends] at ends
  | feed | takeStats => simp [TableCall.ends] at ends
  | deactivateAll | drop =>
    obtain ⟨front, back, split⟩ := exists_split distinct found
    have same : s.channel = channel := channel_of_find? found
    have none {others : List Stream} (part : ∀ other ∈ others, other ∈ front ++ back) :
        (others.map fun other => StreamCall.destroy other.channel).filter
          (·.channel = channel) = [] := by
      rw [List.filter_eq_nil_iff]
      intro told member
      obtain ⟨other, among, rfl⟩ := List.mem_map.1 member
      have apart : other.channel ≠ channel := same ▸ split.apart other (part other among)
      exact fun own => apart (of_decide_eq_true own)
    simp only [respond, deactivateAll]
    rw [split.streams_eq, List.map_append, List.filter_append, List.map_cons,
      none fun other member => List.mem_append_left _ member,
      List.filter_cons_of_pos (by simp [StreamCall.channel, same]),
      none fun other member => List.mem_append_right _ member, same]
    rfl

end StreamTable
end Lookout
