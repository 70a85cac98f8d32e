import Lookout.Proofs.System.Display

/-!
# Frame loops keep to their sessions

The frame loop of a session that has been stopped or started anew may be late: it notices only in
its next step.  Yet whatever the tasks do and in whichever order, a loop that has not been revoked
displays its own session, a loop that has been revoked touches nothing, and every result that is
displayed was pushed into the session of the loop that displays it (`loops_law`).

## Main definitions

* `Staged` — the streams and the loops fit what was pushed and displayed.
* `System.Ticked` — what one step of a frame loop can do.
-/

namespace Lookout

/-- The streams and the loops fit each other, and what was pushed and displayed. -/
structure Staged (x : Stage) (pushed shown : List (Seat × Result)) : Prop where
  attended : Attended x.streams x.loops x.sessions
  /-- what was displayed and what waits was pushed, each as often and in the same session -/
  subperm : (shown ++ x.streams.waiting).Subperm pushed
  addressed : ∀ entry ∈ pushed, entry.2.channel = entry.1.1
  displayed_eq : x.displayed = shown.map (·.2)

theorem channel_of_mem_lodged {t : StreamTable} {result : Result} {entry : Seat × Result}
    (member : entry ∈ t.lodged result) : entry.2.channel = entry.1.1 := by
  obtain ⟨s, found, rfl⟩ := List.mem_map.1 member
  exact (StreamTable.channel_of_find? (Option.mem_toList.1 found)).symm

namespace Staged

variable {x x' : Stage} {pushed shown : List (Seat × Result)} {minLength : Nat}

theorem stage_new (alignment : Alignment) : Staged ⟨.empty alignment, [], 0, []⟩ [] [] where
  attended := attended_empty alignment
  subperm := List.Subperm.refl _
  addressed := nofun
  displayed_eq := rfl

/-- Nothing is pushed and nothing is displayed. -/
theorem kept (staged : Staged x pushed shown)
    (attended : Attended x'.streams x'.loops x'.sessions)
    (waiting : x'.streams.waiting.Subperm x.streams.waiting)
    (displayed_eq : x'.displayed = x.displayed) : Staged x' pushed shown where
  attended
  subperm := ((List.subperm_append_left shown).2 waiting).trans staged.subperm
  addressed := staged.addressed
  displayed_eq := displayed_eq.trans staged.displayed_eq

theorem pushResult (staged : Staged x pushed shown) (result : Result) :
    Staged (x.withStreams ((x.streams.pushResult result).toOption.getD x.streams))
      (x.streams.lodged result ++ pushed) shown := by
  simp only [StreamTable.pushResult, StreamTable.lodged]
  cases found : x.streams.find? result.channel with
  | none => exact staged
  | some s =>
    have own : (s.pushResult result).seat = s.seat := rfl
    refine ⟨staged.attended.update found own, ?_, fun entry member => ?_, staged.displayed_eq⟩
    · have more := StreamTable.waiting_update_pushResult staged.attended.distinct found result
      refine (((more.append_left shown).trans List.perm_middle).subperm).trans ?_
      exact (List.subperm_cons _).2 staged.subperm
    · rcases List.mem_append.1 member with new | old
      · have lodged : entry ∈ x.streams.lodged result := by
          simpa [StreamTable.lodged, found] using new
        exact channel_of_mem_lodged lodged
      · exact staged.addressed entry old

theorem deliver (staged : Staged x pushed shown) (frame : Frame) :
    Staged (x.withStreams (x.streams.deliver minLength frame).1) pushed shown := by
  simp only [StreamTable.deliver]
  cases found : x.streams.find? frame.channel with
  | none => exact staged
  | some s =>
    have own : ((s.latchEpoch frame.timestamp).1.feed frame.payload minLength).1.seat = s.seat :=
      s.seat_latchEpoch frame.timestamp
    have waiting := StreamTable.waiting_update_of_eq staged.attended.distinct found own
      (s.waiting_latchEpoch frame.timestamp)
    exact staged.kept (staged.attended.update found own) waiting.subperm rfl

/-- Whatever an effect does, the results that it lets wait wait in the session of their channel. -/
theorem effect (staged : Staged x pushed shown) (effect : Effect) :
    Staged (x.withStreams (effect.onStreams minLength x.streams))
      (effect.lodged x.streams ++ pushed) shown := by
  cases effect with
  | dial | hand | release | notify => exact staged
  | endStreams =>
    exact staged.kept staged.attended.deactivateAll (List.nil_sublist _).subperm rfl
  | queueResult result => exact staged.pushResult result
  | deliver raw =>
    simp only [Effect.onStreams, StreamTable.route]
    cases Frame.decode raw with
    | error fault => exact staged
    | ok frame => exact staged.deliver frame
  | reportStreams =>
    refine staged.kept staged.attended.takeStats ?_ rfl
    exact (List.Perm.of_eq x.streams.waiting_takeStats).subperm

theorem effects (staged : Staged x pushed shown) (effects : List Effect) :
    Staged (x.withStreams (effects.foldl (Effect.onStreams minLength) x.streams))
      (lodgedBy minLength x.streams effects ++ pushed) shown := by
  induction effects generalizing x pushed with
  | nil => exact staged
  | cons effect later ih =>
    rw [lodgedBy, List.append_assoc]
    have next : Staged (x.withStreams (effect.onStreams minLength x.streams)) _ _ :=
      staged.effect effect
    exact ih next

/-- What is repeated keeps what each of its steps keeps. -/
theorem foldl {α : Type} {step : System → α → System} (xs : List α)
    (each : ∀ s, Staged s.stage pushed shown → ∀ x ∈ xs, Staged (step s x).stage pushed shown)
    {s : System} (staged : Staged s.stage pushed shown) :
    Staged (xs.foldl step s).stage pushed shown := by
  induction xs generalizing s with
  | nil => exact staged
  | cons x xs ih =>
    exact ih (fun s staged other member => each s staged other (.tail _ member))
      (each s staged x (.head _))

end Staged

namespace System

variable {s : System} {pushed shown : List (Seat × Result)}

/-! ## Calls of the client -/

theorem staged_startStream {period : Nanoseconds} (paced : period ≠ 0)
    (staged : Staged s.stage pushed shown) (binding : ChannelId × Player) :
    Staged (startStream period s binding).stage pushed shown := by
  obtain ⟨channel, player⟩ := binding
  simp only [startStream, stage_observeCalls, if_neg paced]
  exact staged.kept (staged.attended.activate channel player period _)
    ((s.streams.waiting_activate channel s.sessions player).subperm.trans
      (s.streams.waiting_deactivate channel)) rfl

theorem staged_startStreams (paced : s.config.alignment.frameInterval? ≠ some 0)
    (staged : Staged s.stage pushed shown) (bindings : List (ChannelId × Player)) :
    Staged ((s.startStreams bindings).elim s (·.1)).stage pushed shown := by
  simp only [startStreams]
  cases interval : s.config.alignment.frameInterval? with
  | none => exact staged
  | some period =>
    have moving : period ≠ 0 := by
      rintro rfl
      exact paced interval
    simp only [Option.map_some, Option.elim_some, send, stage_order]
    exact staged.foldl bindings fun _ staged binding _ => staged_startStream moving staged binding

theorem staged_stopStreams (staged : Staged s.stage pushed shown) (channels : List ChannelId) :
    Staged (s.stopStreams channels).1.stage pushed shown := by
  simp only [stopStreams, send, stage_order]
  refine staged.foldl channels fun s staged channel _ => ?_
  simp only [stopStream, stage_observeCalls]
  exact staged.kept (staged.attended.deactivate channel) (s.streams.waiting_deactivate channel) rfl

theorem staged_play (staged : Staged s.stage pushed shown) (channel : ChannelId)
    (player : Player) : Staged (s.play channel player).stage pushed shown := by
  simp only [play]
  cases found : s.streams.find? channel with
  | none => exact staged
  | some stream =>
    have own : ({ stream with player } : Stream).seat = stream.seat := rfl
    exact staged.kept (staged.attended.update found own)
      (StreamTable.waiting_update_of_eq staged.attended.distinct found own rfl).subperm rfl

theorem staged_pushResult (staged : Staged s.stage pushed shown) (result : Result) :
    Staged (s.pushResult result).1.stage (s.streams.lodged result ++ pushed) shown := by
  have lodged : Staged
      (s.stage.withStreams ((s.streams.pushResult result).toOption.getD s.streams)) _ _ :=
    staged.pushResult result
  simp only [System.pushResult]
  cases outcome : s.streams.pushResult result with
  | error | ok =>
    rw [outcome] at lodged
    exact lodged

/-! ## Answers of the link -/

theorem staged_answer (sound : Link.Sound s.config s.link) (staged : Staged s.stage pushed shown)
    (input : Input) :
    Staged (s.answer input).stage
      (lodgedBy s.config.demux.minPictureLength s.streams
        (s.link.step s.config s.now input).effects ++ pushed) shown := by
  have silent := (Link.course_step sound s.now input).not_aligned
  rw [answer, commit, stage_performAll _ silent]
  exact staged.effects _

/-! ## Steps of a frame loop -/

/-- Displays a result, if there is one. -/
def display (s : System) : Option Result → System
  | some result => s.notify (.aligned result)
  | none => s

/-- A console whose frame loop has displayed a frame of a stream. -/
def displayFrame (s : System) (l : FrameLoop) (stream : Stream) : System :=
  let rendered := stream.render s.config.playback
  ({ s.rearmLoop l with streams := s.streams.update rendered.1 }.observeCalls rendered.2.2).display
    rendered.2.1

/-- What one step of a frame loop can do: one that has been revoked ends, any other one displays a
frame of its own session. -/
inductive Ticked (s : System) (l : FrameLoop) : System → Prop where
  | ended (revoked : l.session ∈ s.streams.revoked) : Ticked s l (s.endLoop l)
  | displayed {stream : Stream} (found : s.streams.find? l.channel = some stream)
      (own : stream.seat = l.seat) : Ticked s l (s.displayFrame l stream)

theorem revoked_iff (running : s.shutDown = false) (session : SessionId) :
    s.revoked session = true ↔ session ∈ s.streams.revoked := by
  simp [revoked, running]

theorem ticked (running : s.shutDown = false)
    (attended : Attended s.streams s.loops s.sessions) {l : FrameLoop} (member : l ∈ s.loops) :
    Ticked s l (s.tickLoop l) := by
  by_cases revoked : l.session ∈ s.streams.revoked
  · rw [tickLoop, if_pos ((revoked_iff running _).2 revoked)]
    exact .ended revoked
  · obtain ⟨stream, found, own⟩ := attended.find?_of_live member revoked
    have session : stream.session = l.session := congrArg Prod.snd own
    have goes_on : ¬ s.revoked l.session = true := fun gone =>
      revoked ((revoked_iff running _).1 gone)
    simp only [tickLoop, if_neg goes_on, found, session, StreamTable.render, Option.map_some]
    exact .displayed found own

section
variable (s : System) (l : FrameLoop) (stream : Stream)

theorem trace_display (result : Option Result) :
    (s.display result).trace =
      (result.toList.map fun result => .notice s.now (.aligned result)) ++ s.trace := by
  cases result <;> rfl

theorem stage_display (result : Option Result) :
    (s.display result).stage = ⟨s.stage.streams, s.stage.loops, s.stage.sessions,
      result.toList ++ s.stage.displayed⟩ := by
  cases result <;> rfl

theorem stage_displayFrame :
    (s.displayFrame l stream).stage =
      ⟨s.streams.update (stream.render s.config.playback).1, (s.rearmLoop l).loops, s.sessions,
        (stream.render s.config.playback).2.1.toList ++ s.displayed⟩ := by
  rw [displayFrame, stage_display, stage_observeCalls]
  rfl

/-- What is seen of a frame: the player is told something, and at most one result is displayed. -/
theorem since_displayFrame :
    (s.displayFrame l stream).since s =
      ((stream.render s.config.playback).2.1.toList.map fun result =>
        .notice s.now (.aligned result)) ++
        ((stream.render s.config.playback).2.2.map (.stream s.now)).reverse := by
  refine since_of_trace_eq ?_
  rw [displayFrame, trace_display, trace_observeCalls, List.append_assoc]
  rfl

theorem aligned_displayFrame :
    ((s.displayFrame l stream).since s).filterMap Observation.aligned? =
      (stream.render s.config.playback).2.1.toList := by
  rw [since_displayFrame]
  simp [List.filterMap_append, List.filterMap_map, Observation.aligned?, Function.comp_def]

theorem map_seat_rearmLoop :
    (s.rearmLoop l).loops.map FrameLoop.seat = s.loops.map FrameLoop.seat := by
  rw [rearmLoop, List.map_map]
  refine List.map_congr_left fun other _ => ?_
  simp only [Function.comp_apply]
  split <;> rfl

end

namespace Ticked

variable {s' : System} {l : FrameLoop}

theorem staged (tick : Ticked s l s') (staged : Staged s.stage pushed shown) :
    Staged s'.stage pushed
      (((s'.since s).filterMap Observation.aligned?).map (l.seat, ·) ++ shown) := by
  cases tick with
  | ended revoked =>
    have silent : (s.endLoop l).since s = [] := since_self s
    rw [silent]
    exact staged.kept (staged.attended.ended revoked) (.refl _) rfl
  | @displayed stream found own =>
    have same : (stream.render s.config.playback).1.seat = stream.seat :=
      stream.seat_render s.config.playback
    rw [aligned_displayFrame, stage_displayFrame]
    refine ⟨?_, ?_, staged.addressed, ?_⟩
    · exact staged.attended.tended
        (StreamTable.running_update staged.attended.distinct found same) rfl
        (map_seat_rearmLoop s l)
    · have waits := StreamTable.waiting_update_render staged.attended.distinct found
        s.config.playback
      rw [own] at waits
      rw [List.append_assoc]
      refine (List.perm_append_comm_assoc _ shown _).subperm.trans ?_
      exact ((List.subperm_append_left shown).2 waits).trans staged.subperm
    · refine (congrArg (_ ++ ·) staged.displayed_eq).trans ?_
      simp [Function.comp_def]

/-- A step of a frame loop leaves every stream of another session alone, and nothing that is seen of
it is about the channel of such a stream. -/
theorem apart (tick : Ticked s l s') (staged : Staged s.stage pushed shown)
    {channel : ChannelId} (other : (s.streams.find? channel).map (·.session) ≠ some l.session) :
    s'.streams.find? channel = s.streams.find? channel ∧
      ∀ o ∈ s'.since s, o.channel? ≠ some channel := by
  have after := tick.staged staged
  cases tick with
  | ended revoked =>
    have silent : (s.endLoop l).since s = [] := since_self s
    rw [silent]
    exact ⟨rfl, nofun⟩
  | @displayed stream found own =>
    have channel_eq : stream.channel = l.channel := congrArg Prod.fst own
    have elsewhere : l.channel ≠ channel := by
      rintro rfl
      exact other (by rw [found]; exact congrArg (some ·.2) own)
    refine ⟨?_, fun o seen => ?_⟩
    · have streams : (s.displayFrame l stream).streams = _ :=
        congrArg Stage.streams (stage_displayFrame s l stream)
      have same : (stream.render s.config.playback).1.channel = stream.channel :=
        congrArg Prod.fst (stream.seat_render s.config.playback)
      rw [streams, StreamTable.find?_update, same, channel_eq, if_neg elsewhere]
    · rw [aligned_displayFrame] at after
      rw [since_displayFrame] at seen
      rcases List.mem_append.1 seen with among | among
      · obtain ⟨result, shows, rfl⟩ := List.mem_map.1 among
        have entered : (l.seat, result) ∈ pushed :=
          after.subperm.subset (List.mem_append_left _ (List.mem_append_left _
            (List.mem_map_of_mem shows)))
        have addressed : result.channel = l.channel := staged.addressed _ entered
        simpa [Observation.channel?, addressed] using elsewhere
      · obtain ⟨calls, told_eq⟩ := StreamTable.told_render (p := s.config.playback) stream
        obtain ⟨call, told, rfl⟩ := List.mem_map.1 (List.mem_reverse.1 among)
        rw [told_eq] at told
        obtain ⟨inner, -, rfl⟩ := List.mem_map.1 told
        simpa [Observation.channel?, StreamCall.channel, channel_eq] using elsewhere

end Ticked

/-- The frame loop of a session takes a step, if there is one and it can. -/
theorem tick_cases (session : SessionId) :
    s.move (.act (.tick session)) = s ∨
      ∃ l, s.loops.find? (·.session == session) = some l ∧
        s.move (.act (.tick session)) = s.tickLoop l := by
  by_cases enabled : s.enabled (.tick session) = true
  · simp only [System.enabled] at enabled
    cases found : s.loops.find? (·.session == session) with
    | none => simp [found] at enabled
    | some l =>
      refine .inr ⟨l, rfl, ?_⟩
      rw [found] at enabled
      simp [move, System.enabled, act, found, enabled]
  · exact .inl (by simp [move, enabled])

/-! ## Runs -/

/-- Where nothing happens, nothing is displayed. -/
theorem shows_of_still {m : Move} (still : s.move m = s) : s.shows m = [] := by
  have silent : s.news m = [] := by rw [news, still, since_self]
  cases m with
  | act action =>
    cases action with
    | tick session =>
      simp only [shows, silent]
      split <;> rfl
    | _ => rfl
  | _ => rfl

/-- Only the step of a frame loop displays a result, one that belongs to the session of the loop. -/
theorem tick_of_mem_shows (running : s.shutDown = false) (staged : Staged s.stage pushed shown)
    {m : Move} {entry : Seat × Result} (member : entry ∈ s.shows m) :
    m = .act (.tick entry.1.2) ∧ ∃ stream, s.streams.find? entry.1.1 = some stream ∧
      stream.session = entry.1.2 ∧ stream.epoch.isSome := by
  obtain ⟨session, rfl⟩ : ∃ session, m = .act (.tick session) := by
    cases m with
    | act action =>
      cases action with
      | tick session => exact ⟨session, rfl⟩
      | _ => cases member
    | _ => cases member
  rcases s.tick_cases session with still | ⟨l, found, moved⟩
  · rw [shows_of_still still] at member
    cases member
  · have named : l.session = session := by simpa using List.find?_some found
    simp only [shows, found, news, moved] at member
    obtain ⟨result, among, rfl⟩ := List.mem_map.1 member
    refine ⟨by rw [← named]; rfl, ?_⟩
    have tick := ticked running staged.attended (List.mem_of_find?_eq_some found)
    generalize s.tickLoop l = s' at tick among
    cases tick with
    | ended revoked =>
      have silent : (s.endLoop l).since s = [] := since_self s
      rw [silent] at among
      cases among
    | @displayed stream found own =>
      rw [aligned_displayFrame] at among
      have latched := Stream.epoch_of_render (Option.mem_toList.1 among)
      exact ⟨stream, found, congrArg Prod.snd own, latched⟩

theorem staged_tick (running : s.shutDown = false) (staged : Staged s.stage pushed shown)
    (session : SessionId) :
    Staged (s.move (.act (.tick session))).stage pushed
      (s.shows (.act (.tick session)) ++ shown) := by
  rcases s.tick_cases session with still | ⟨l, found, moved⟩
  · rw [shows_of_still still, still]
    exact staged
  · simp only [shows, found, news, moved]
    exact (ticked running staged.attended (List.mem_of_find?_eq_some found)).staged staged

theorem staged_act (sound : Link.Sound s.config s.link) (driving : s.driving = true)
    (running : s.shutDown = false) (staged : Staged s.stage pushed shown) (action : Action) :
    Staged (s.move (.act action)).stage (s.pushes (.act action) ++ pushed)
      (s.shows (.act action) ++ shown) := by
  by_cases enabled : s.enabled action = true
  · cases action with
    | stop => simp [System.enabled, running] at enabled
    | finish => simp [System.enabled, canFinish, driving] at enabled
    | command =>
      cases waiting : s.commands with
      | nil => simp [System.enabled, waiting] at enabled
      | cons command rest =>
        simp only [move, act, pushes, input?, if_pos enabled, waiting, List.head?_cons,
          Option.map_some]
        exact staged_answer (s := { s with commands := rest }) sound staged (.command command)
    | transport =>
      cases waiting : s.transport with
      | nil => simp [System.enabled, waiting] at enabled
      | cons event rest =>
        simp only [move, act, pushes, input?, if_pos enabled, waiting, List.head?_cons,
          Option.map_some]
        exact staged_answer (s := { s with transport := rest }) sound staged (.transport event)
    | timer timer =>
      simp only [move, act, pushes, input?, if_pos enabled]
      exact staged_answer sound staged (.timer timer)
    | poll generation | attempt generation =>
      simp only [move, act, pushes, input?, if_pos enabled, shows]
      split <;> simpa using staged
    | tick session =>
      simp only [pushes, input?, if_pos enabled]
      exact staged_tick running staged session
  · have still : s.move (.act action) = s := by rw [move, if_neg enabled]
    have unpushed : s.pushes (.act action) = [] := by simp only [pushes, input?, if_neg enabled]
    rw [shows_of_still still, still, unpushed]
    exact staged

theorem staged_move (paced : s.config.alignment.frameInterval? ≠ some 0)
    (sound : Link.Sound s.config s.link) (driving : s.driving = true)
    (running : s.shutDown = false) (staged : Staged s.stage pushed shown) (m : Move)
    (goes_on : (s.move m).shutDown = false) :
    Staged (s.move m).stage (s.pushes m ++ pushed) (s.shows m ++ shown) := by
  cases m with
  | act action => exact staged_act sound driving running staged action
  | connect url | connectConfigured => simpa [pushes, input?, shows, move] using staged
  | send message | close => simpa [pushes, input?, shows, move, send, close] using staged
  | startStreams bindings => exact staged_startStreams paced staged bindings
  | stopStreams channels => exact staged_stopStreams staged channels
  | pushResult result => exact staged_pushResult staged result
  | shutDown | drop => cases goes_on
  | arrive number arrival | hangUp number => simpa [pushes, input?, shows, move] using staged
  | play channel player => exact staged_play staged channel player
  | arrange | wait => exact staged

section
variable (config : Config) (moves : List Move)

theorem staged_after (paced : config.alignment.frameInterval? ≠ some 0)
    (running : (after config moves).shutDown = false) :
    Staged (after config moves).stage (System.pushed config moves) (System.shown config moves) := by
  induction moves with
  | nil => exact .stage_new config.alignment
  | cons m past ih =>
    have before := running_of_cons config past running
    have driving := driving_of_running config past before
    have sound : Link.Sound (after config past).config (after config past).link := by
      rw [config_after, link_after config past driving]
      exact Link.sound_after _
    refine staged_move ?_ sound driving before (ih before) m running
    rwa [config_after]

/-- Every result that was displayed was displayed by a step of the loop of the session into which it
had been pushed, while that session ran and had its first frame. -/
theorem exists_tick_of_mem_shown (paced : config.alignment.frameInterval? ≠ some 0)
    (running : (after config moves).shutDown = false) {entry : Seat × Result}
    (member : entry ∈ System.shown config moves) :
    ∃ later past stream, moves = later ++ .act (.tick entry.1.2) :: past ∧
      (after config past).streams.find? entry.1.1 = some stream ∧ stream.session = entry.1.2 ∧
      stream.epoch.isSome ∧ entry ∈ System.pushed config past := by
  induction moves with
  | nil => cases member
  | cons m past ih =>
    have before := running_of_cons config past running
    have staged := staged_after config past paced before
    rcases List.mem_append.1 member with new | old
    · obtain ⟨rfl, stream, found, own, latched⟩ := tick_of_mem_shows before staged new
      refine ⟨[], past, stream, rfl, found, own, latched, ?_⟩
      have displayed := (staged_tick before staged entry.1.2).subperm.subset
      exact displayed (List.mem_append_left _ (List.mem_append_left _ new))
    · obtain ⟨later, past, stream, rfl, rest⟩ := ih before old
      exact ⟨m :: later, past, stream, rfl, rest⟩

/-- **Frame loops keep to their sessions**, before the client is shut down, if there is time between
two frames.  A loop that has not been revoked finds its own session on its channel, and no channel
has two such loops.  A step of a loop leaves all streams of other sessions as they are, with what
waits in them, and nothing that it tells a player or displays is about their channels.  Every stream
has a loop that goes on.  And whatever is displayed is displayed by a step of a loop: each result
had been pushed into the very session of the loop, as often as it is displayed, and the session had
its first frame. -/
theorem loops_law (paced : config.alignment.frameInterval? ≠ some 0)
    (running : (after config moves).shutDown = false) :
    let s := after config moves
    (∀ l ∈ s.loops, s.revoked l.session = false →
      ∃ stream, s.streams.find? l.channel = some stream ∧ stream.session = l.session) ∧
    (∀ l ∈ s.loops, ∀ other ∈ s.loops, s.revoked l.session = false →
      s.revoked other.session = false → other.channel = l.channel → other = l) ∧
    (∀ l ∈ s.loops, ∀ channel, (s.streams.find? channel).map (·.session) ≠ some l.session →
      (s.tickLoop l).streams.find? channel = s.streams.find? channel ∧
      ∀ o ∈ (s.tickLoop l).since s, o.channel? ≠ some channel) ∧
    (∀ stream ∈ s.streams.streams, ∃ l ∈ s.loops,
      l.channel = stream.channel ∧ l.session = stream.session ∧ s.revoked l.session = false) ∧
    s.displayed = (System.shown config moves).map (·.2) ∧
    (System.shown config moves).Subperm (System.pushed config moves) ∧
    ∀ seat result, (seat, result) ∈ System.shown config moves → result.channel = seat.1 ∧
      ∃ later past stream, moves = later ++ .act (.tick seat.2) :: past ∧
        (after config past).streams.find? seat.1 = some stream ∧ stream.session = seat.2 ∧
        stream.epoch.isSome ∧ (seat, result) ∈ System.pushed config past := by
  intro s
  have staged := staged_after config moves paced running
  have attended : Attended s.streams s.loops s.sessions := staged.attended
  have live (session : SessionId) : s.revoked session = false ↔ session ∉ s.streams.revoked := by
    rw [← Bool.not_eq_true, revoked_iff running]
  have pushed : (System.shown config moves).Subperm (System.pushed config moves) :=
    (List.sublist_append_left _ _).subperm.trans staged.subperm
  simp only [live]
  refine ⟨fun l member goes_on => ?_, fun l member other among goes_on too same => ?_,
    fun l member channel other => ?_, fun stream member => ?_, staged.displayed_eq, pushed,
    fun seat result member => ⟨?_, ?_⟩⟩
  · obtain ⟨stream, found, own⟩ := attended.find?_of_live member goes_on
    exact ⟨stream, found, congrArg Prod.snd own⟩
  · exact attended.eq_of_channel member among goes_on too same
  · exact (ticked running attended member).apart staged other
  · obtain ⟨l, among, own, goes_on⟩ := attended.exists_loop member
    exact ⟨l, among, congrArg Prod.fst own, congrArg Prod.snd own, goes_on⟩
  · exact staged.addressed _ (pushed.subset member)
  · exact exists_tick_of_mem_shown config moves paced running member

end

/-- A result of channel 7. -/
def personAt (time : Timestamp) : Result := ⟨7, time, .classification "person"⟩

/-- A stream is started, the link opens, and the device sends the first frame.  One result is pushed
and displayed, and another one waits when the stream is started anew. -/
def restarted : List Move :=
  [.startStreams [(7, {})], .pushResult (personAt 2), .act (.tick 0), .act .transport,
    .act (.poll 1), .arrive none (.message (.binary (Frame.encode ⟨7, 1, [0]⟩))),
    .pushResult (personAt 1), .act .transport, .act (.poll 1), .act (.poll 1), .act .command,
    .connect "ws://device", .act .command, .startStreams [(7, {})]]

/-- The loop of the first session is late, and cannot touch the second one. -/
theorem loops_law_restarted :
    let s := after {} restarted
    ({} : Config).alignment.frameInterval? ≠ some 0 ∧ s.shutDown = false ∧
    s.loops.map FrameLoop.seat = [(7, 0), (7, 1)] ∧ s.streams.revoked = [0] ∧
    (∀ l ∈ s.loops, l.session = 0 → (s.tickLoop l).streams.find? 7 = s.streams.find? 7) ∧
    (∀ l ∈ s.loops, s.revoked l.session = false →
      ∃ stream, s.streams.find? l.channel = some stream ∧ stream.session = l.session) ∧
    (System.pushed {} restarted).map (fun entry => (entry.1, entry.2.timestamp)) =
      [((7, 0), 2), ((7, 0), 1)] ∧
    (System.shown {} restarted).map (fun entry => (entry.1, entry.2.timestamp)) = [((7, 0), 1)] ∧
    (System.shown {} restarted).Subperm (System.pushed {} restarted) := by
  intro s
  have paced : ({} : Config).alignment.frameInterval? ≠ some 0 := by decide +kernel
  have running : s.shutDown = false := by decide +kernel
  obtain ⟨owns, -, apart, -, -, counted, -⟩ := loops_law {} restarted paced running
  refine ⟨paced, running, by decide +kernel, by decide +kernel, fun l member old => ?_, owns,
    by decide +kernel, by decide +kernel, counted⟩
  have successor : (s.streams.find? 7).map (·.session) ≠ some l.session := by
    rw [old]
    decide +kernel
  exact (apart l member 7 successor).1

end System
end Lookout
