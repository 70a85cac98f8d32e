import Lookout.Proofs.Stream.Sessions

/-!
# Channels do not interfere

Calls that are addressed to channels come in any order, and a run of a table is a list of them,
first call first.  What a call does depends on the stream of its own channel, and only that stream
is changed by it and only its decoder and player hear of it.  So nobody who looks at one channel can
tell whether other channels are in use (`isolation_law`).

## Main definitions

* `ChannelCall`, `ChannelCall.address?`, `StreamTable.reply` — calls and what comes of them.
* `StreamTable.after`, `StreamTable.log` — runs.
* `frames` — the frames that arrive on a channel while a session runs on it.
-/

namespace Lookout

/-- One thing that is asked of a table of streams about a channel. -/
inductive ChannelCall where
  | activate (channel : ChannelId) (session : SessionId) (player : Player)
  | deactivate (channel : ChannelId)
  | route (raw : Bytes)
  | latchEpoch (channel : ChannelId) (time : Timestamp)
  | pushResult (result : Result)
  /-- the player of the channel has gone on by itself -/
  | play (channel : ChannelId) (player : Player)
  | render (channel : ChannelId)

/-- What whoever calls is answered. -/
inductive ChannelAnswer where
  | done
  | stopped (was : Bool)
  | routed (outcome : Except Truncated Delivery)
  /-- nothing if no stream runs -/
  | latched (fresh : Option Bool)
  | pushed (outcome : Except Error Unit)
  | shown (outcome : Option (Option Result))

/-- What comes of a call. -/
structure ChannelReply where
  table : StreamTable
  answer : ChannelAnswer
  /-- what the decoder and the player are told -/
  told : List StreamCall

/-- The channel that a call is about; a message that is too short for its header is about none. -/
def ChannelCall.address? : ChannelCall → Option ChannelId
  | activate channel _ _ | deactivate channel | latchEpoch channel _ | play channel _
  | render channel => some channel
  | route raw => (Frame.decode raw).toOption.map (·.channel)
  | pushResult result => some result.channel

/-- The channel whose decoder or player is told something. -/
def StreamCall.channel : StreamCall → ChannelId
  | feed channel _ | destroy channel | player channel _ => channel

/-- What is fed to the decoder of a channel. -/
def StreamCall.fed? (channel : ChannelId) : StreamCall → Option Bytes
  | feed other payload => if other = channel then some payload else none
  | destroy _ | player _ _ => none

namespace StreamTable

section
variable (minLength : Nat) (p : Playback)

/-- Answers a call. -/
def reply (t : StreamTable) : ChannelCall → ChannelReply
  | .activate channel session player =>
    let (t, told) := t.activate channel session player
    ⟨t, .done, told⟩
  | .deactivate channel =>
    let (t, was, told) := t.deactivate channel
    ⟨t, .stopped was, told⟩
  | .route raw =>
    match t.route minLength raw with
    | .ok (t, delivery, told) => ⟨t, .routed (.ok delivery), told⟩
    | .error fault => ⟨t, .routed (.error fault), []⟩
  | .latchEpoch channel time =>
    match t.find? channel with
    | some s => ⟨t.update (s.latchEpoch time).1, .latched (some (s.latchEpoch time).2), []⟩
    | none => ⟨t, .latched none, []⟩
  | .pushResult result =>
    match t.pushResult result with
    | .ok t => ⟨t, .pushed (.ok ()), []⟩
    | .error fault => ⟨t, .pushed (.error fault), []⟩
  | .play channel player =>
    match t.find? channel with
    | some s => ⟨t.update { s with player }, .done, []⟩
    | none => ⟨t, .done, []⟩
  | .render channel =>
    match t.render p channel with
    | some (t, shown, told) => ⟨t, .shown (some shown), told⟩
    | none => ⟨t, .shown none, []⟩

/-- A call with the session that runs on its channel, whose decoder and player are told what the
call has to tell them. -/
structure Entry where
  call : ChannelCall
  session : Option SessionId
  answer : ChannelAnswer
  told : List StreamCall

/-- The record of a call. -/
def entry (t : StreamTable) (call : ChannelCall) : Entry where
  call
  session := (call.address?.bind t.find?).map (·.session)
  answer := (t.reply minLength p call).answer
  told := (t.reply minLength p call).told

/-- The table after some calls. -/
def after (t : StreamTable) (calls : List ChannelCall) : StreamTable :=
  calls.foldl (fun t call => (t.reply minLength p call).table) t

/-- The record of some calls. -/
def log : StreamTable → List ChannelCall → List Entry
  | _, [] => []
  | t, call :: later =>
    t.entry minLength p call :: log (t.reply minLength p call).table later

end

/-- What a recorded call feeds to the decoder of a channel, with the session of that decoder. -/
def Entry.fed (channel : ChannelId) (e : Entry) : List (SessionId × Bytes) :=
  (e.told.filterMap (StreamCall.fed? channel)).filterMap fun payload =>
    e.session.map (·, payload)

end StreamTable

/-- The session that runs on a channel after a call: the latest one that was started there and has
not been stopped since. -/
def ChannelCall.running (channel : ChannelId) (before : Option SessionId) :
    ChannelCall → Option SessionId
  | activate other session _ => if other = channel then some session else before
  | deactivate other => if other = channel then none else before
  | route _ | latchEpoch _ _ | pushResult _ | play _ _ | render _ => before

/-- The payload of a frame of a channel. -/
def ChannelCall.payload? (channel : ChannelId) : ChannelCall → Option Bytes
  | route raw => ((Frame.decode raw).toOption.filter (·.channel == channel)).map (·.payload)
  | activate _ _ _ | deactivate _ | latchEpoch _ _ | pushResult _ | play _ _ | render _ => none

/-- The payloads of the frames that arrive on a channel while a session runs on it, with that
session. -/
def frames (channel : ChannelId) : Option SessionId → List ChannelCall → List (SessionId × Bytes)
  | _, [] => []
  | running, call :: later =>
    (running.bind fun session => (call.payload? channel).map (session, ·)).toList ++
      frames channel (call.running channel running) later

namespace StreamTable

variable {minLength : Nat} {p : Playback} {t t' : StreamTable} {call : ChannelCall}
  {channel : ChannelId}

/-! ## One call -/

/-- A stream that is displayed only talks to its player. -/
theorem told_render (s : Stream) :
    ∃ calls : List PlayerCall, (s.render p).2.2 = calls.map (.player s.channel) := by
  simp only [Stream.render]
  split <;> exact ⟨_, rfl⟩

/-- What becomes of a stream. -/
structure Outcome where
  stream : Stream
  answer : ChannelAnswer
  told : List StreamCall

/-- What becomes of a stream that is given a frame. -/
def given (minLength : Nat) (frame : Frame) (s : Stream) : Outcome :=
  let (s, latched) := s.latchEpoch frame.timestamp
  let (s, counted, told) := s.feed frame.payload minLength
  ⟨s, .routed (.ok (.delivered frame.channel latched counted)), told⟩

/-- The reply to a call that is about the stream of a channel, if one runs there. -/
def serve (t : StreamTable) (channel : ChannelId) (absent : ChannelAnswer)
    (f : Stream → Outcome) : ChannelReply :=
  match t.find? channel with
  | some s => ⟨t.update (f s).stream, (f s).answer, (f s).told⟩
  | none => ⟨t, absent, []⟩

/-- The manners in which calls are answered: most of them look up the stream of their channel and
do something with it alone. -/
inductive Manner (minLength : Nat) (p : Playback) : ChannelCall → Prop where
  | truncated {raw : Bytes} {fault : Truncated} (short : Frame.decode raw = .error fault) :
      Manner minLength p (.route raw)
  | started (channel : ChannelId) (session : SessionId) (player : Player) :
      Manner minLength p (.activate channel session player)
  | stopped (channel : ChannelId) : Manner minLength p (.deactivate channel)
  | served {call : ChannelCall} (channel : ChannelId) (absent : ChannelAnswer)
      (f : Stream → Outcome) (own : call.address? = some channel)
      (still : ∀ s, (f s).stream.seat = s.seat)
      (told : ∀ s, ∀ call ∈ (f s).told, call.channel = s.channel)
      (reply_eq : ∀ t : StreamTable, t.reply minLength p call = t.serve channel absent f) :
      Manner minLength p call

theorem manner (minLength : Nat) (p : Playback) (call : ChannelCall) :
    Manner minLength p call := by
  cases call with
  | activate channel session player => exact .started channel session player
  | deactivate channel => exact .stopped channel
  | route raw =>
    cases decoded : Frame.decode raw with
    | error fault => exact .truncated decoded
    | ok frame =>
      refine .served frame.channel (.routed (.ok (.unbound frame.channel))) (given minLength frame)
        (by simp [ChannelCall.address?, decoded, Except.toOption]) (fun s => ?_) (fun s => ?_)
        fun t => ?_
      · exact s.seat_latchEpoch frame.timestamp
      · simp [given, Stream.feed, StreamCall.channel]
      · simp only [reply, route, decoded, Except.map, deliver, serve]
        cases t.find? frame.channel <;> rfl
  | latchEpoch channel time =>
    refine .served channel (.latched none)
      (fun s => ⟨(s.latchEpoch time).1, .latched (some (s.latchEpoch time).2), []⟩)
      rfl (fun s => s.seat_latchEpoch time) (fun _ => List.forall_mem_nil _) fun t => ?_
    simp only [reply, serve]
  | pushResult result =>
    refine .served result.channel (.pushed (.error (.channelInactive result.channel)))
      (fun s => ⟨s.pushResult result, .pushed (.ok ()), []⟩) rfl (fun _ => rfl)
      (fun _ => List.forall_mem_nil _) fun t => ?_
    simp only [reply, StreamTable.pushResult, serve]
    cases t.find? result.channel <;> rfl
  | play channel player =>
    refine .served channel .done (fun s => ⟨{ s with player }, .done, []⟩) rfl
      (fun _ => rfl) (fun _ => List.forall_mem_nil _) fun t => ?_
    simp only [reply, serve]
  | render channel =>
    refine .served channel (.shown none)
      (fun s => ⟨(s.render p).1, .shown (some (s.render p).2.1), (s.render p).2.2⟩)
      rfl (fun s => s.seat_render p) (fun s => ?_) fun t => ?_
    · obtain ⟨calls, told⟩ := told_render (p := p) s
      simp [told, StreamCall.channel]
    · simp only [reply, StreamTable.render, serve]
      cases t.find? channel <;> rfl

/-- Whoever stops a stream tells its decoder, and nobody else anything. -/
theorem told_deactivate (t : StreamTable) (channel : ChannelId) :
    (t.deactivate channel).2.2 =
      (t.find? channel).toList.map fun _ => .destroy channel := by
  simp only [deactivate]
  cases t.find? channel <;> rfl

theorem channel_of_mem_told_deactivate {told : StreamCall}
    (member : told ∈ (t.deactivate channel).2.2) : told.channel = channel := by
  rw [told_deactivate] at member
  obtain ⟨stopped, -, rfl⟩ := List.mem_map.1 member
  rfl

@[simp] theorem alignment_reply (t : StreamTable) (call : ChannelCall) :
    (t.reply minLength p call).table.alignment = t.alignment := by
  cases manner minLength p call with
  | truncated short => simp [reply, route, short, Except.map]
  | started | stopped => simp [reply]
  | served channel absent f own still told reply_eq =>
    rw [reply_eq, serve]
    split <;> rfl

/-- **A call about another channel, or about none, leaves a channel alone.** -/
theorem reply_other (other : call.address? ≠ some channel) :
    (t.reply minLength p call).table.find? channel = t.find? channel ∧
      ∀ told ∈ (t.reply minLength p call).told, told.channel ≠ channel := by
  cases manner minLength p call with
  | truncated short => simp [reply, route, short, Except.map]
  | started started session player =>
    have apart : started ≠ channel := by simpa [ChannelCall.address?] using other
    refine ⟨by simp [reply, find?_activate, apart], fun told member => ?_⟩
    rw [channel_of_mem_told_deactivate member]
    exact apart
  | stopped stopped =>
    have apart : stopped ≠ channel := by simpa [ChannelCall.address?] using other
    refine ⟨by simp [reply, find?_deactivate, apart], fun told member => ?_⟩
    rw [channel_of_mem_told_deactivate member]
    exact apart
  | served own absent f address still told reply_eq =>
    have apart : own ≠ channel := by
      rintro rfl
      exact other address
    rw [reply_eq, serve]
    split
    · next s found =>
      have same : s.channel = own := channel_of_find? found
      have channel_eq : (f s).stream.channel = s.channel := congrArg Prod.fst (still s)
      refine ⟨?_, fun call member => ?_⟩
      · rw [find?_update, channel_eq, same, if_neg apart]
      · rw [told s call member, same]
        exact apart
    · exact ⟨rfl, nofun⟩

/-- A call tells something to the decoder and the player of its own channel only. -/
theorem channel_of_told (own : call.address? = some channel) :
    ∀ told ∈ (t.reply minLength p call).told, told.channel = channel := by
  cases manner minLength p call with
  | truncated short => simp [ChannelCall.address?, short, Except.toOption] at own
  | started started session player =>
    cases own
    exact fun told member => channel_of_mem_told_deactivate member
  | stopped stopped =>
    cases own
    exact fun told member => channel_of_mem_told_deactivate member
  | served other absent f address still told reply_eq =>
    obtain rfl : other = channel := Option.some.inj (address.symm.trans own)
    rw [reply_eq, serve]
    split
    · next s found =>
      have same : s.channel = other := channel_of_find? found
      exact fun call member => (told s call member).trans same
    · exact nofun

/-- **What a call about a channel does is determined by the stream of the channel.** -/
theorem reply_own (own : call.address? = some channel)
    (same : t'.find? channel = t.find? channel) (aligned : t'.alignment = t.alignment) :
    (t'.reply minLength p call).table.find? channel =
      (t.reply minLength p call).table.find? channel ∧
    t'.entry minLength p call = t.entry minLength p call := by
  cases manner minLength p call with
  | truncated short => simp [ChannelCall.address?, short, Except.toOption] at own
  | started started session player =>
    cases own
    refine ⟨by simp [reply, find?_activate, aligned], ?_⟩
    simp [entry, reply, activate, told_deactivate, same, ChannelCall.address?]
  | stopped stopped =>
    cases own
    refine ⟨by simp [reply, find?_deactivate], ?_⟩
    have was : (t'.deactivate channel).2.1 = (t.deactivate channel).2.1 := by
      simp only [deactivate, same]
      cases t.find? channel <;> rfl
    simp [entry, reply, told_deactivate, same, was, ChannelCall.address?]
  | served other absent f address still told reply_eq =>
    obtain rfl : other = channel := Option.some.inj (address.symm.trans own)
    simp only [entry, reply_eq, address, Option.bind_some, serve, same]
    cases found : t.find? other with
    | none => simp [same, found]
    | some s => simp [find?_update, same, found]

/-- Calls that neither start nor stop a stream change one stream at most, and not its seat. -/
theorem table_of_steady (starts : ∀ channel session player,
    call ≠ .activate channel session player) (stops : ∀ channel, call ≠ .deactivate channel) :
    (t.reply minLength p call).table = t ∨
      ∃ own s s', t.find? own = some s ∧ s'.seat = s.seat ∧
        (t.reply minLength p call).table = t.update s' := by
  cases manner minLength p call with
  | truncated short => exact .inl (by simp [reply, route, short, Except.map])
  | started => exact absurd rfl (starts _ _ _)
  | stopped => exact absurd rfl (stops _)
  | served own absent f address still told reply_eq =>
    rw [reply_eq, serve]
    split
    · next s found => exact .inr ⟨own, s, (f s).stream, found, still s, rfl⟩
    · exact .inl rfl

/-- So they leave the sessions alone. -/
theorem session_of_steady (starts : ∀ channel session player,
    call ≠ .activate channel session player) (stops : ∀ channel, call ≠ .deactivate channel) :
    ((t.reply minLength p call).table.find? channel).map (·.session) =
      (t.find? channel).map (·.session) := by
  rcases table_of_steady starts stops with kept | ⟨own, s, s', found, seat_eq, table_eq⟩
  · rw [kept]
  · have same : s.channel = own := channel_of_find? found
    have channel_eq : s'.channel = s.channel := congrArg Prod.fst seat_eq
    have session_eq : s'.session = s.session := congrArg Prod.snd seat_eq
    rw [table_eq, find?_update, channel_eq, same]
    split
    · next same =>
      rw [← same, found]
      simp [session_eq]
    · rfl

theorem session_reply (t : StreamTable) (call : ChannelCall) (channel : ChannelId) :
    ((t.reply minLength p call).table.find? channel).map (·.session) =
      call.running channel ((t.find? channel).map (·.session)) := by
  cases call with
  | activate started session player =>
    by_cases own : started = channel <;>
      simp [reply, find?_activate, own, ChannelCall.running, Stream.start]
  | deactivate stopped =>
    by_cases own : stopped = channel <;> simp [reply, find?_deactivate, own, ChannelCall.running]
  | route | latchEpoch | pushResult | play | render =>
    refine session_of_steady (fun _ _ _ started => ?_) fun _ stopped => ?_
    · cases started
    · cases stopped

/-- What a call feeds to the decoder of a channel: the payload of a frame of that channel, if a
session runs on it. -/
theorem fed_entry (t : StreamTable) (call : ChannelCall) (channel : ChannelId) :
    (t.entry minLength p call).fed channel =
      (((t.find? channel).map (·.session)).bind fun session =>
        (call.payload? channel).map (session, ·)).toList := by
  cases call with
  | activate started session player =>
    simp only [entry, Entry.fed, reply, activate, told_deactivate, ChannelCall.payload?]
    cases t.find? started <;> simp [StreamCall.fed?]
  | deactivate stopped =>
    simp only [entry, Entry.fed, reply, told_deactivate, ChannelCall.payload?]
    cases t.find? stopped <;> simp [StreamCall.fed?]
  | route raw =>
    simp only [entry, Entry.fed, reply, route, ChannelCall.payload?, ChannelCall.address?]
    cases decoded : Frame.decode raw with
    | error fault => simp [Except.map, Except.toOption]
    | ok frame =>
      simp only [Except.map, Except.toOption, deliver, Option.map_some, Option.bind_some]
      cases found : t.find? frame.channel with
      | none =>
        by_cases own : frame.channel = channel
        · subst own
          simp [found]
        · simp [own]
      | some s =>
        have same : s.channel = frame.channel := channel_of_find? found
        by_cases own : frame.channel = channel
        · subst own
          simp [Stream.feed, StreamCall.fed?, same, found, Option.filter_some]
        · simp [Stream.feed, StreamCall.fed?, same, own]
  | latchEpoch other time | play other player =>
    simp only [entry, Entry.fed, reply, ChannelCall.payload?]
    split <;> simp
  | pushResult result =>
    simp only [entry, Entry.fed, reply, ChannelCall.payload?]
    split <;> simp
  | render other =>
    simp only [entry, Entry.fed, reply, StreamTable.render, ChannelCall.payload?]
    cases t.find? other with
    | none => simp
    | some s =>
      obtain ⟨calls, told⟩ := told_render (p := p) s
      simp [told, List.filterMap_map, Function.comp_def, StreamCall.fed?]

/-! ## Runs -/

section
variable (minLength p channel)

/-- Two tables that agree on a channel go on to agree when all calls about other channels are left
out for one of them. -/
theorem agree_after (calls : List ChannelCall) (same : t'.find? channel = t.find? channel)
    (aligned : t'.alignment = t.alignment) :
    let own := calls.filter (·.address? == some channel)
    (t'.after minLength p own).find? channel = (t.after minLength p calls).find? channel ∧
    t'.log minLength p own =
      (t.log minLength p calls).filter (·.call.address? == some channel) := by
  induction calls generalizing t t' with
  | nil => exact ⟨same, rfl⟩
  | cons call later ih =>
    by_cases own : call.address? = some channel
    · have next : (t'.reply minLength p call).table.find? channel =
          (t.reply minLength p call).table.find? channel := (reply_own own same aligned).1
      have entry_eq : t'.entry minLength p call = t.entry minLength p call :=
        (reply_own own same aligned).2
      have rest := ih next (by simpa using aligned)
      rw [List.filter_cons_of_pos (by simpa using own)]
      refine ⟨rest.1, ?_⟩
      rw [log, log, List.filter_cons_of_pos (by simpa [entry] using own), entry_eq, rest.2]
    · have kept : (t.reply minLength p call).table.find? channel = t.find? channel :=
        (reply_other own).1
      have rest := ih (same.trans kept.symm) (by simpa using aligned)
      rw [List.filter_cons_of_neg (by simpa using own)]
      refine ⟨rest.1, ?_⟩
      rw [log, List.filter_cons_of_neg (by simpa [entry] using own), rest.2]

/-- What is told to a decoder or a player is told by calls about its channel. -/
theorem told_log (t : StreamTable) (calls : List ChannelCall) :
    ((t.log minLength p calls).filter (·.call.address? == some channel)).flatMap (·.told) =
      ((t.log minLength p calls).flatMap (·.told)).filter (·.channel == channel) := by
  induction calls generalizing t with
  | nil => rfl
  | cons call later ih =>
    rw [log, List.flatMap_cons, List.filter_append, ← ih]
    by_cases own : call.address? = some channel
    · have all : (t.entry minLength p call).told.filter (·.channel == channel) =
          (t.entry minLength p call).told := by
        rw [List.filter_eq_self]
        simpa [entry] using channel_of_told own
      rw [List.filter_cons_of_pos (by simpa [entry] using own), List.flatMap_cons, all]
    · have none : (t.entry minLength p call).told.filter (·.channel == channel) = [] := by
        rw [List.filter_eq_nil_iff]
        simpa [entry] using (reply_other own).2
      rw [List.filter_cons_of_neg (by simpa [entry] using own), none, List.nil_append]

theorem fed_log (t : StreamTable) (calls : List ChannelCall) :
    (t.log minLength p calls).flatMap (Entry.fed channel) =
      frames channel ((t.find? channel).map (·.session)) calls := by
  induction calls generalizing t with
  | nil => rfl
  | cons call later ih =>
    rw [log, List.flatMap_cons, fed_entry, ih, session_reply]
    rfl

end

/-- **Channels do not interfere.**  When all calls about other channels and all messages that are
too short are left out of a run, the stream of a channel is the same after it, and so is what every
call about the channel was answered, in which session, and what it told the decoder and the player;
nothing else was told them.  The decoder of each session was fed the payloads of the frames of its
channel that arrived while the session ran, and nothing else. -/
theorem isolation_law (alignment : Alignment) (minLength : Nat) (p : Playback)
    (calls : List ChannelCall) (channel : ChannelId) :
    let t := empty alignment
    let own := calls.filter (·.address? == some channel)
    (t.after minLength p own).find? channel = (t.after minLength p calls).find? channel ∧
    t.log minLength p own =
      (t.log minLength p calls).filter (·.call.address? == some channel) ∧
    (t.log minLength p own).flatMap (·.told) =
      ((t.log minLength p calls).flatMap (·.told)).filter (·.channel == channel) ∧
    (t.log minLength p calls).flatMap (Entry.fed channel) = frames channel none calls := by
  intro t own
  have same : t.find? channel = t.find? channel := rfl
  obtain ⟨found, logged⟩ := agree_after minLength p channel calls same rfl
  refine ⟨found, logged, ?_, fed_log minLength p channel t calls⟩
  rw [logged, told_log]

end StreamTable
end Lookout
