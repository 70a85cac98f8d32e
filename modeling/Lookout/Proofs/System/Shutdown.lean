import Lookout.Proofs.System.Metrics
import Lookout.Proofs.System.Sockets

/-!
# The end of the console

When the client is shut down, the task that drives the link ends, and it does so on a path of its
own (`act_stop`): it lets go of the socket and tears all streams down, as for a socket that is
lost, but it neither ends the life of the link nor publishes a state.  So no socket and no session
is left, whatever the link was doing (`Stopped`, `Enrolled`); but the client goes on reporting the
state in which the link was, and that is a wrong one whenever the link held a socket
(`shutdown_law`).

## Main definitions

* `StreamTable.Knows`, `System.Enrolled` — no session that was started is forgotten.
* `System.Stopped` — the task that drives the link has ended, and every socket has been let go.
-/

namespace Lookout

/-- A call that ends nothing on a channel leaves it to the session that runs there. -/
theorem TableCall.running_of_steady {channel : ChannelId} {call : TableCall}
    (steady : call.ends channel = false) (before : Option SessionId) :
    call.running channel before = before := by
  cases call with
  | about call =>
    cases call with
    | activate other | deactivate other =>
      have apart : other ≠ channel := by simpa [ends, ChannelCall.ends] using steady
      simp [running, ChannelCall.running, apart]
    | route | latchEpoch | pushResult | play | render => rfl
  | feed | takeStats => rfl
  | deactivateAll | drop => cases steady

namespace StreamTable

variable {minLength : Nat} {p : Playback} {t t' : StreamTable} {session : SessionId}

/-! ## Sessions that a table knows -/

/-- A session runs, or has been revoked. -/
def Knows (t : StreamTable) (session : SessionId) : Prop :=
  (∃ channel, t.session? channel = some session) ∨ session ∈ t.revoked

/-- A session that is ended is revoked, and any other one goes on. -/
theorem knows_respond (distinct : t.Distinct) (call : TableCall) (known : t.Knows session) :
    (t.respond minLength p call).1.Knows session := by
  rw [Knows, mem_revoked_respond distinct]
  rcases known with ⟨channel, runs⟩ | revoked
  · cases ends : call.ends channel with
    | true => exact .inr (.inl ⟨channel, runs, ends⟩)
    | false =>
      refine .inl ⟨channel, ?_⟩
      rw [session?_respond, call.running_of_steady ends, runs]
  · exact .inr (.inr revoked)

theorem knows_undergo (ordered : t.Ordered) (known : t.Knows session) (calls : List TableCall) :
    (t.undergo minLength p calls).Knows session := by
  induction calls generalizing t with
  | nil => exact known
  | cons call later ih =>
    exact ih (ordered_respond ordered call) (knows_respond ordered.distinct call known)

theorem knows_activate (t : StreamTable) (channel : ChannelId) (session : SessionId)
    (player : Player) : (t.activate channel session player).1.Knows session := by
  refine .inl ⟨channel, ?_⟩
  rw [session?, find?_activate, if_pos rfl]
  rfl

/-- Where nothing runs, every session that was started has been revoked. -/
theorem Knows.mem_revoked (known : t.Knows session) (none : t.streams = []) :
    session ∈ t.revoked := by
  rcases known with ⟨channel, runs⟩ | revoked
  · rw [session?, find?, none] at runs
    cases runs
  · exact revoked

end StreamTable

namespace System

open StreamTable (Leads)

variable {s s' : System} {l : Link}

/-! ## Sessions of a run -/

/-- No session that was started is forgotten. -/
structure Enrolled (s : System) : Prop where
  ordered : s.streams.Ordered
  known : ∀ session < s.sessions, s.streams.Knows session

theorem enrolled_new (config : Config) : Enrolled (new config) where
  ordered := List.Pairwise.nil
  known _ early := absurd early (Nat.not_lt_zero _)

theorem Enrolled.of_leads {minLength : Nat} {p : Playback} (enrolled : Enrolled s)
    (leads : Leads minLength p s.streams s'.streams) (sessions_eq : s'.sessions = s.sessions) :
    Enrolled s' := by
  obtain ⟨calls, streams_eq⟩ := leads
  refine ⟨?_, fun session early => ?_⟩
  · rw [streams_eq]
    exact StreamTable.ordered_undergo enrolled.ordered calls
  · rw [streams_eq]
    rw [sessions_eq] at early
    exact StreamTable.knows_undergo enrolled.ordered (enrolled.known session early) calls

theorem Enrolled.of_stage (enrolled : Enrolled s) (kept : s'.stage = s.stage) : Enrolled s' := by
  have streams_eq : s'.streams = s.streams := congrArg Stage.streams kept
  have sessions_eq : s'.sessions = s.sessions := congrArg Stage.sessions kept
  refine ⟨?_, ?_⟩
  · rw [streams_eq]
    exact enrolled.ordered
  · rw [streams_eq, sessions_eq]
    exact enrolled.known

theorem enrolled_startStream (period : Nanoseconds) (enrolled : Enrolled s)
    (binding : ChannelId × Player) : Enrolled (startStream period s binding) := by
  obtain ⟨channel, player⟩ := binding
  simp only [startStream, trace_observeCalls]
  refine ⟨StreamTable.ordered_activate enrolled.ordered channel s.sessions player,
    fun session early => ?_⟩
  rcases Nat.lt_succ_iff_lt_or_eq.1 early with before | rfl
  · have known : (s.streams.respond s.config.demux.minPictureLength s.config.playback
        (.about (.activate channel s.sessions player))).1.Knows session :=
      StreamTable.knows_respond enrolled.ordered.distinct _ (enrolled.known session before)
    exact known
  · exact StreamTable.knows_activate s.streams channel s.sessions player

theorem enrolled_startStreams (enrolled : Enrolled s) (bindings : List (ChannelId × Player)) :
    Enrolled ((s.startStreams bindings).elim s (·.1)) := by
  simp only [startStreams]
  cases s.config.alignment.frameInterval? with
  | none => exact enrolled
  | some period =>
    refine Enrolled.of_stage ?_ (stage_order _ _)
    induction bindings generalizing s with
    | nil => exact enrolled
    | cons binding rest ih => exact ih (enrolled_startStream period enrolled binding)

theorem sessions_performAll (s : System) (effects : List Effect) :
    (effects.foldl perform s).sessions = s.sessions := by
  induction effects generalizing s with
  | nil => rfl
  | cons effect later ih =>
    refine (ih (s.perform effect)).trans ?_
    cases effect with
    | dial | hand | release | notify => rfl
    | endStreams => exact congrArg Stage.sessions (stage_observeCalls _ _)
    | queueResult result =>
      simp only [perform]
      cases s.streams.pushResult result <;> rfl
    | deliver raw =>
      simp only [perform]
      cases s.streams.route s.config.demux.minPictureLength raw with
      | error fault => rfl
      | ok delivered => exact congrArg Stage.sessions (stage_observeCalls _ _)
    | reportStreams => simp only [perform, trace_notifyAll]

theorem sessions_tickLoop (s : System) (l : FrameLoop) :
    (s.tickLoop l).sessions = s.sessions := by
  simp only [tickLoop]
  split
  · rfl
  split
  · rfl
  split
  · rfl
  split
  · rfl
  · next shown calls _ =>
    rw [trace_observeCalls]
    cases shown <;> rfl

/-- Only the client starts sessions. -/
theorem sessions_act (s : System) (action : Action) : (s.act action).sessions = s.sessions := by
  cases action with
  | stop => exact sessions_performAll _ _
  | command | transport =>
    simp only [act]
    split
    · rfl
    · exact sessions_performAll _ _
  | timer timer => exact sessions_performAll _ _
  | poll generation =>
    simp only [act]
    split
    · next k _ => exact congrArg Stage.sessions (stage_pollSocket s k)
    · rfl
  | attempt generation =>
    simp only [act]
    split
    · next k _ => exact congrArg Stage.sessions (stage_attemptSocket s k)
    · rfl
  | tick session =>
    simp only [act]
    split
    · exact sessions_tickLoop s _
    · rfl
  | finish => simp only [act, observe, trace_observeCalls]

theorem sessions_stopStreams (s : System) (channels : List ChannelId) :
    (s.stopStreams channels).1.sessions = s.sessions := by
  refine (congrArg Stage.sessions (stage_order _ _)).trans ?_
  change (channels.foldl stopStream s).sessions = s.sessions
  induction channels generalizing s with
  | nil => rfl
  | cons channel rest ih =>
    exact (ih (s.stopStream channel)).trans (congrArg Stage.sessions (stage_observeCalls _ _))

/-- **No move forgets a session.** -/
theorem enrolled_move (enrolled : Enrolled s) (m : Move) : Enrolled (s.move m) := by
  cases m with
  | act action =>
    rw [move]
    split
    · exact enrolled.of_leads (leads_act s action) (sessions_act s action)
    · exact enrolled
  | connect url => exact enrolled.of_stage (stage_connect s url)
  | connectConfigured => exact enrolled.of_stage (stage_connectConfigured s)
  | send | close => exact enrolled.of_stage (stage_order s _)
  | startStreams bindings => exact enrolled_startStreams enrolled bindings
  | stopStreams channels =>
    exact enrolled.of_leads (leads_move s (.stopStreams channels)) (sessions_stopStreams s channels)
  | pushResult result =>
    refine enrolled.of_leads (leads_move s (.pushResult result)) ?_
    simp only [move, pushResult]
    cases s.streams.pushResult result <;> rfl
  | arrive number arrival => exact enrolled.of_stage (stage_arrive s number arrival)
  | hangUp number => exact enrolled.of_stage (stage_hangUp s number)
  | play channel player =>
    refine enrolled.of_leads (leads_move s (.play channel player)) ?_
    simp only [move, play]
    cases s.streams.find? channel <;> rfl
  | shutDown | drop | arrange | wait => exact enrolled.of_stage rfl

theorem enrolled_after (config : Config) (moves : List Move) : Enrolled (after config moves) := by
  induction moves with
  | nil => exact enrolled_new config
  | cons m past ih => exact enrolled_move ih m

/-! ## The last turn -/

/-- The last turn of the link: its socket is let go with the timers that belong to it, all streams
are torn down, and their decoders are all that is told.  Its life and what is published of it stay.
-/
theorem act_stop (s : System) :
    s.act .stop = { s with
      driving := false
      commands := []
      transport := []
      link := { s.link with socket := none, heartbeat := none, closeGrace := none }
      sockets := s.sockets.map fun k =>
        if s.link.socket = some k.generation then { k with released := true } else k
      streams := s.streams.deactivateAll.1
      trace := (s.streams.deactivateAll.2.2.map (.stream s.now)).reverse ++ s.trace } := by
  have turn_eq : s.link.shutdown =
      ⟨{ s.link with socket := none, heartbeat := none, closeGrace := none },
        s.link.socket.toList.map .release ++ [.endStreams]⟩ := rfl
  cases held : s.link.socket with
  | none => simp [act, turn_eq, held, commit, perform, trace_observeCalls]
  | some generation =>
    simp [act, turn_eq, held, commit, perform, trace_observeCalls, updateSocket,
      @eq_comm _ generation]

/-! ## After the last turn -/

/-- The task that drives a link has ended, the link stays as it was left, and every socket has been
let go. -/
structure Stopped (l : Link) (s : System) : Prop where
  quit : s.driving = false
  link_eq : s.link = l
  nodup : (s.sockets.map (·.generation)).Nodup
  released : ∀ k ∈ s.sockets, k.released = true

theorem Deed.released_eq {k k' : Socket} {reports : List TransportEvent}
    (deed : Deed s k k' reports) : k'.released = k.released := by
  cases deed <;> rfl

/-- Where nobody drives the link, it answers nothing. -/
theorem input?_eq_none (quit : s.driving = false) (m : Move) : s.input? m = none := by
  cases m with
  | act action =>
    cases action with
    | command | transport | timer => simp [input?, enabled, quit]
    | stop | poll | attempt | tick | finish => simp only [input?, ite_self]
  | _ => rfl

namespace Stopped

variable (stopped : Stopped l s)
include stopped

theorem performed (done : Performed s [] s') : Stopped l s' where
  quit := done.driving_eq.trans stopped.quit
  link_eq := done.link_eq.trans stopped.link_eq
  nodup := by
    rw [done.sockets_eq]
    exact stopped.nodup
  released := by
    rw [done.sockets_eq]
    exact stopped.released

/-- A socket changes, but is not held again. -/
theorem updateSocket {k : Socket} (member : k ∈ s.sockets) {f : Socket → Socket}
    (generation_eq : (f k).generation = k.generation) (released_eq : (f k).released = k.released) :
    Stopped l (s.updateSocket k.generation f) := by
  have own {other : Socket} (among : other ∈ s.sockets)
      (same : other.generation = k.generation) : other = k :=
    List.inj_on_of_nodup_map stopped.nodup among member same
  refine ⟨stopped.quit, stopped.link_eq, ?_, ?_⟩
  · have generations : (s.updateSocket k.generation f).sockets.map (·.generation) =
        s.sockets.map (·.generation) := by
      rw [System.updateSocket, List.map_map]
      refine List.map_congr_left fun other among => ?_
      by_cases same : other.generation = k.generation
      · simp [own among same, generation_eq]
      · simp [same]
    rw [generations]
    exact stopped.nodup
  · intro k' among'
    obtain ⟨other, among, rfl⟩ := List.mem_map.1 among'
    by_cases same : other.generation = k.generation
    · simp [own among same, released_eq, stopped.released k member]
    · simp [same, stopped.released other among]

theorem idle {arrival : Option (Nat × Arrival)} (idle : Idle s arrival s') : Stopped l s' := by
  cases idle with
  | aside done => exact stopped.performed done
  | @did k s' member does =>
    obtain ⟨f, reports, deed, done⟩ := does
    have changed := stopped.updateSocket member deed.generation_eq deed.released_eq
    rw [foldl_report, if_neg (by simp [changed.quit])] at done
    exact changed.performed done
  | came member accepted receives done =>
    exact (stopped.updateSocket member receives.generation_eq receives.released_eq).performed done
  | shut done =>
    have shut : Stopped l { s with shutDown := true } :=
      ⟨stopped.quit, stopped.link_eq, stopped.nodup, stopped.released⟩
    exact shut.performed done

/-- **A link that has been left is never taken up again.** -/
theorem move (m : Move) : Stopped l (s.move m) := by
  have silent := input?_eq_none stopped.quit m
  exact stopped.idle (idle_move silent fun _ => by simp [enabled, stopped.quit])

end Stopped

variable {config : Config} {past : List Move}

theorem after_stop (stops : (after config past).enabled .stop = true) :
    after config (.act .stop :: past) = (after config past).act .stop := by
  rw [after, System.move, if_pos stops]

theorem driving_of_stop (stops : (after config past).enabled .stop = true) :
    (after config past).driving = true := by
  simp only [enabled, Bool.and_eq_true] at stops
  exact stops.1

theorem stopped_stop (stops : (after config past).enabled .stop = true) :
    Stopped { (after config past).link with socket := none, heartbeat := none, closeGrace := none }
      (after config (.act .stop :: past)) := by
  have coherent := coherent_after config past (driving_of_stop stops)
  rw [after_stop stops, act_stop]
  refine ⟨rfl, rfl, ?_, ?_⟩
  · rw [List.map_map]
    refine (List.map_congr_left fun k _ => ?_) ▸ coherent.nodup_generations
    simp only [Function.comp_apply]
    split <;> rfl
  · intro k' member'
    obtain ⟨k, member, rfl⟩ := List.mem_map.1 member'
    split
    · rfl
    · next other =>
      rw [← Bool.not_eq_false, (coherent.fits k member).held_iff]
      exact other

theorem stopped_after (stops : (after config past).enabled .stop = true) (later : List Move) :
    Stopped { (after config past).link with socket := none, heartbeat := none, closeGrace := none }
      (after config (later ++ .act .stop :: past)) := by
  induction later with
  | nil => exact stopped_stop stops
  | cons m later ih => exact ih.move m

theorem Idle.driving_eq {arrival : Option (Nat × Arrival)} (idle : Idle s arrival s') :
    s'.driving = s.driving := by
  cases idle with
  | aside done | shut done => exact done.driving_eq
  | did member does => exact does.kept.2.2.1
  | came member accepted receives done => exact done.driving_eq

/-- The task that drives the link ends in a last turn, and in no other way. -/
theorem exists_stop {moves : List Move} (quit : (after config moves).driving = false) :
    ∃ later past, moves = later ++ .act .stop :: past ∧
      (after config past).enabled .stop = true := by
  induction moves with
  | nil => cases quit
  | cons m past ih =>
    by_cases before : (after config past).driving = false
    · obtain ⟨later, earlier, rfl, stops⟩ := ih before
      exact ⟨m :: later, earlier, rfl, stops⟩
    · by_cases stop : m = .act .stop ∧ (after config past).enabled .stop = true
      · obtain ⟨rfl, stops⟩ := stop
        exact ⟨[], past, rfl, stops⟩
      · refine absurd ?_ before
        have stride := stride_move (after config past) m
        cases answers : (after config past).input? m with
        | none =>
          have idle := idle_move answers fun same =>
            Bool.eq_false_iff.2 fun stops => stop ⟨same, stops⟩
          exact idle.driving_eq.symm.trans quit
        | some input =>
          rw [answers] at stride
          cases stride.driving_of_answered.2.symm.trans quit

/-! ## What the client sees -/

/-- As long as the link is driven, the client sees it down exactly when no socket is held. -/
theorem socket_eq_none_iff {moves : List Move} (driving : (after config moves).driving = true) :
    (after config moves).link.socket = none ↔
      (after config moves).link.published = .disconnected := by
  have sound := (coherent_after config moves driving).sound
  rw [sound.socket_eq, sound.published_eq]
  split
  · next down => simp [down]
  · next up => simp [up]

/-- **How the console ends.**  The last turn of the link tears every stream down: none is left in
the table, every session that was ever started has been revoked, and the decoders are told, and
nobody else.  From then on the link is not driven, it holds no socket, and every socket has been let
go; but what is published of it stays for good.  So a socket is never held by a link that the client
sees down, and the client sees a link that holds no socket as one that is not down exactly after a
last turn that came while a socket was held. -/
theorem shutdown_law (config : Config) (moves : List Move) :
    let s := after config moves
    (s.link.socket ≠ none → s.link.published ≠ .disconnected) ∧
    (s.link.socket = none ∧ s.link.published ≠ .disconnected ↔
      ∃ later past, moves = later ++ .act .stop :: past ∧
        (after config past).enabled .stop = true ∧ (after config past).link.socket ≠ none) ∧
    ∀ later past, moves = later ++ .act .stop :: past →
      (after config past).enabled .stop = true →
      let before := after config past
      let ended := after config (.act .stop :: past)
      ended.streams.streams = [] ∧
      (∀ session < ended.sessions, session ∈ ended.streams.revoked) ∧
      ended.trace = (before.streams.streams.map fun stream =>
        .stream before.now (.destroy stream.channel)).reverse ++ before.trace ∧
      s.driving = false ∧
      s.link = { before.link with socket := none, heartbeat := none, closeGrace := none } ∧
      ∀ k ∈ s.sockets, k.released = true := by
  intro s
  have left {later past : List Move} (same : moves = later ++ .act .stop :: past)
      (stops : (after config past).enabled .stop = true) :
      Stopped { (after config past).link with
        socket := none, heartbeat := none, closeGrace := none } s := by
    have stopped := stopped_after stops later
    rwa [← same] at stopped
  refine ⟨fun held down => ?_, ⟨?_, ?_⟩, fun later past same stops => ?_⟩
  · by_cases driving : s.driving = true
    · exact held ((socket_eq_none_iff driving).2 down)
    · obtain ⟨later, past, same, stops⟩ := exists_stop (Bool.not_eq_true _ ▸ driving)
      exact held (by rw [(left same stops).link_eq])
  · rintro ⟨free, seen⟩
    by_cases driving : s.driving = true
    · exact absurd ((socket_eq_none_iff driving).1 free) seen
    · obtain ⟨later, past, same, stops⟩ := exists_stop (Bool.not_eq_true _ ▸ driving)
      refine ⟨later, past, same, stops, fun none => seen ?_⟩
      rw [(left same stops).link_eq]
      exact (socket_eq_none_iff (driving_of_stop stops)).1 none
  · rintro ⟨later, past, same, stops, held⟩
    rw [(left same stops).link_eq]
    exact ⟨rfl, fun down => held ((socket_eq_none_iff (driving_of_stop stops)).2 down)⟩
  · intro before ended
    have stopped := left same stops
    have ended_eq : ended = before.act .stop := after_stop stops
    have none : ended.streams.streams = [] := by
      rw [ended_eq, act_stop]
      rfl
    refine ⟨none, fun session early => ?_, ?_, stopped.quit, stopped.link_eq, stopped.released⟩
    · exact ((enrolled_after config (.act .stop :: past)).known session early).mem_revoked none
    · rw [ended_eq, act_stop, StreamTable.deactivateAll, List.map_map]
      rfl

/-- A stream runs and the link is open when the client is shut down. -/
def openAtShutdown : List Move :=
  [.shutDown, .act .transport, .act (.poll 1), .act (.poll 1), .act .command,
    .connect "ws://device", .act .command, .startStreams [(7, {})]]

/-- The socket goes on to its end after the last turn. -/
def endedOpen : List Move := .act (.poll 1) :: .act .stop :: openAtShutdown

theorem shutdown_law_endedOpen :
    let s := after {} endedOpen
    (after {} openAtShutdown).enabled .stop = true ∧
    (after {} openAtShutdown).link.socket = some 1 ∧
    s.link.socket = none ∧ s.link.published = .opened ∧ s.driving = false ∧
    (∀ k ∈ s.sockets, k.released = true) ∧
    (after {} (.act .stop :: openAtShutdown)).streams.streams = [] ∧
    0 ∈ (after {} (.act .stop :: openAtShutdown)).streams.revoked := by
  intro s
  have stops : (after {} openAtShutdown).enabled .stop = true := by decide +kernel
  have socket : (after {} openAtShutdown).link.socket = some 1 := by decide +kernel
  have published : s.link.published = .opened := by decide +kernel
  have held : (after {} openAtShutdown).link.socket ≠ none := by simp [socket]
  obtain ⟨-, seen, ends⟩ := shutdown_law {} endedOpen
  obtain ⟨none, revoked, -, quit, -, released⟩ := ends [.act (.poll 1)] openAtShutdown rfl stops
  have started : 0 < (after {} (.act .stop :: openAtShutdown)).sessions := by decide +kernel
  have free := (seen.2 ⟨[.act (.poll 1)], openAtShutdown, rfl, stops, held⟩).1
  exact ⟨stops, socket, free, published, quit, released, none, revoked 0 started⟩

/-- After the last turn of an open link no socket is held, but the client goes on seeing it open. -/
theorem stopped_seen_open :
    (after {} (.act .stop :: openAtShutdown)).link.socket = none ∧
    (after {} (.act .stop :: openAtShutdown)).link.published = .opened ∧
    ¬ ∀ past, (after {} past).enabled .stop = true →
      (after {} (.act .stop :: past)).link.published = .disconnected := by
  have socket : (after {} (.act .stop :: openAtShutdown)).link.socket = none := by decide +kernel
  have published : (after {} (.act .stop :: openAtShutdown)).link.published = .opened := by
    decide +kernel
  refine ⟨socket, published, fun down => ?_⟩
  have seen := down openAtShutdown (by decide +kernel)
  rw [published] at seen
  cases seen

end System
end Lookout
