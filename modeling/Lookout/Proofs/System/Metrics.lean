import Lookout.Proofs.Stream.Counters
import Lookout.Proofs.System.Display
import Lookout.Proofs.System.Inbound

/-!
# Reports of the console

Whatever happens in a console, its table of streams comes about by calls (`leads_after`), so
what is true of every run of a table is true of it.  No call breaks the order of the streams, which
are kept ascending by channel (`ordered_undergo`).  The timer of the metrics makes one such call,
the one that reads all counters, and tells what has been read, stream by stream (`act_metrics`).

## Main definitions

* `StreamTable.Leads` — a table comes about from another by calls.
* `StreamTable.Ordered` — the streams are in the order of their channels.
-/

namespace Lookout

/-- What an effect calls in the table of streams. -/
def Effect.calls : Effect → List TableCall
  | .endStreams => [.deactivateAll]
  | .queueResult result => [.about (.pushResult result)]
  | .deliver raw => [.about (.route raw)]
  | .reportStreams => [.takeStats]
  | .dial _ _ | .hand _ _ | .release _ | .notify _ => []

namespace StreamTable

/-! ## Tables that come about by calls -/

/-- A table comes about from another by calls. -/
def Leads (minLength : Nat) (p : Playback) (t t' : StreamTable) : Prop :=
  ∃ calls, t' = t.undergo minLength p calls

variable {minLength : Nat} {p : Playback} {t t' t'' : StreamTable}

theorem Leads.refl (t : StreamTable) : Leads minLength p t t := ⟨[], rfl⟩

theorem Leads.trans (first : Leads minLength p t t') (second : Leads minLength p t' t'') :
    Leads minLength p t t'' := by
  obtain ⟨calls, rfl⟩ := first
  obtain ⟨later, rfl⟩ := second
  exact ⟨calls ++ later, (undergo_append t calls later).symm⟩

theorem Leads.call (t : StreamTable) (call : TableCall) :
    Leads minLength p t (t.respond minLength p call).1 := ⟨[call], rfl⟩

/-! ## The order of the streams -/

/-- The streams are in the order of their channels. -/
def Ordered (t : StreamTable) : Prop := (t.running.map (·.1)).Pairwise (· < ·)

theorem Ordered.distinct (ordered : t.Ordered) : t.Distinct :=
  ordered.imp fun less => UInt32.ne_of_lt less

theorem ordered_insertSorted {s : Stream} {streams : List Stream}
    (ordered : (streams.map (·.channel)).Pairwise (· < ·))
    (absent : ∀ other ∈ streams, other.channel ≠ s.channel) :
    ((insertSorted s streams).map (·.channel)).Pairwise (· < ·) := by
  induction streams with
  | nil => exact List.pairwise_singleton _ _
  | cons other rest ih =>
    obtain ⟨least, ordered_rest⟩ := List.pairwise_cons.1 ordered
    rw [insertSorted]
    split
    · next less =>
      refine List.pairwise_cons.2 ⟨?_, ordered⟩
      intro channel member
      rcases List.mem_cons.1 member with rfl | later
      · exact less
      · exact UInt32.lt_trans less (least channel later)
    · next beyond =>
      have apart : other.channel ≠ s.channel := absent other (.head _)
      have less : other.channel < s.channel :=
        UInt32.lt_of_le_of_ne (UInt32.not_lt.1 beyond) apart
      have placed := ih ordered_rest fun another member => absent another (.tail _ member)
      refine List.pairwise_cons.2 ⟨?_, placed⟩
      intro channel member
      obtain ⟨placed, among, rfl⟩ := List.mem_map.1 member
      rcases List.mem_cons.1 ((insertSorted_perm s rest).mem_iff.1 among) with rfl | old
      · exact less
      · exact least _ (List.mem_map_of_mem old)

theorem ordered_deactivate (ordered : t.Ordered) (channel : ChannelId) :
    (t.deactivate channel).1.Ordered := by
  rw [Ordered, running_deactivate]
  exact ordered.sublist (List.filter_sublist.map _)

theorem ordered_activate (ordered : t.Ordered) (channel : ChannelId) (session : SessionId)
    (player : Player) : (t.activate channel session player).1.Ordered := by
  have kept := ordered_deactivate ordered channel
  rw [Ordered, running, List.map_map] at kept ⊢
  exact ordered_insertSorted kept fun other member => ne_of_mem_deactivate member

/-- No call breaks the order of the streams. -/
theorem ordered_respond (ordered : t.Ordered) (call : TableCall) :
    (t.respond minLength p call).1.Ordered := by
  cases call with
  | about call =>
    cases call with
    | activate channel session player => exact ordered_activate ordered channel session player
    | deactivate channel => exact ordered_deactivate ordered channel
    | route | latchEpoch | pushResult | play | render =>
      rw [Ordered, respond, (seats_of_steady ordered.distinct (by simp) (by simp)).1]
      exact ordered
  | feed channel payload least =>
    simp only [respond]
    split
    · next s found =>
      have kept : (t.update (s.feed payload least).1).running = t.running :=
        running_update ordered.distinct found rfl
      rw [Ordered, kept]
      exact ordered
    · exact ordered
  | takeStats =>
    rw [Ordered, respond, running_takeStats]
    exact ordered
  | deactivateAll | drop => exact List.Pairwise.nil

theorem ordered_undergo (ordered : t.Ordered) (calls : List TableCall) :
    (t.undergo minLength p calls).Ordered := by
  induction calls generalizing t with
  | nil => exact ordered
  | cons call later ih => exact ih (ordered_respond ordered call)

end StreamTable

namespace System

open StreamTable (Leads)

variable {s : System} {minLength : Nat} {p : Playback}

/-! ## What a move does to the streams -/

theorem streams_perform (s : System) (effect : Effect) :
    (s.perform effect).streams =
      effect.onStreams s.config.demux.minPictureLength s.streams := by
  by_cases silent : ∀ result, effect ≠ .notify (.aligned result)
  · exact congrArg Stage.streams (stage_perform s silent)
  · obtain ⟨result, rfl⟩ : ∃ result, effect = .notify (.aligned result) := by
      simpa using silent
    rfl

theorem onStreams_eq (minLength : Nat) (p : Playback) (t : StreamTable) (effect : Effect) :
    effect.onStreams minLength t = t.undergo minLength p effect.calls := by
  cases effect with
  | dial | hand | release | notify | endStreams | reportStreams => rfl
  | queueResult result =>
    simp only [Effect.onStreams, Effect.calls, StreamTable.undergo, List.foldl_cons,
      List.foldl_nil, StreamTable.respond, StreamTable.reply]
    cases t.pushResult result <;> rfl
  | deliver raw =>
    simp only [Effect.onStreams, Effect.calls, StreamTable.undergo, List.foldl_cons,
      List.foldl_nil, StreamTable.respond, StreamTable.reply]
    cases t.route minLength raw <;> rfl

/-- What the effects of a turn call in the table, one after another. -/
theorem leads_performAll (s : System) (effects : List Effect) :
    Leads s.config.demux.minPictureLength s.config.playback s.streams
      (effects.foldl perform s).streams := by
  induction effects generalizing s with
  | nil => exact .refl _
  | cons effect later ih =>
    have next := ih (s.perform effect)
    have config_eq : (s.perform effect).config = s.config := (performed_perform s effect).config_eq
    rw [config_eq, streams_perform, onStreams_eq _ s.config.playback] at next
    exact Leads.trans ⟨effect.calls, rfl⟩ next

theorem leads_of_stage {s' : System} (kept : s'.stage = s.stage) :
    Leads minLength p s.streams s'.streams := by
  have same : s'.streams = s.streams := congrArg Stage.streams kept
  rw [same]
  exact .refl _

/-- What is repeated makes calls if each of its steps does. -/
theorem leads_foldl {α : Type} {step : System → α → System}
    (each : ∀ s x, Leads minLength p s.streams (step s x).streams) (xs : List α) (s : System) :
    Leads minLength p s.streams (xs.foldl step s).streams := by
  induction xs generalizing s with
  | nil => exact .refl _
  | cons x xs ih => exact (each s x).trans (ih (step s x))

theorem leads_startStreams (s : System) (bindings : List (ChannelId × Player)) :
    Leads minLength p s.streams ((s.startStreams bindings).elim s (·.1)).streams := by
  simp only [startStreams]
  cases s.config.alignment.frameInterval? with
  | none => exact .refl _
  | some period =>
    have each (s : System) (binding : ChannelId × Player) :
        Leads minLength p s.streams (startStream period s binding).streams := by
      obtain ⟨channel, player⟩ := binding
      simp only [startStream, trace_observeCalls]
      exact .call s.streams (.about (.activate channel s.sessions player))
    exact (leads_foldl each bindings s).trans (leads_of_stage (stage_order _ _))

theorem leads_stopStreams (s : System) (channels : List ChannelId) :
    Leads minLength p s.streams (s.stopStreams channels).1.streams := by
  have each (s : System) (channel : ChannelId) :
      Leads minLength p s.streams (s.stopStream channel).streams := by
    simp only [stopStream, trace_observeCalls]
    exact .call s.streams (.about (.deactivate channel))
  exact (leads_foldl each channels s).trans (leads_of_stage (stage_order _ _))

theorem leads_pushResult (s : System) (result : Result) :
    Leads minLength p s.streams (s.pushResult result).1.streams := by
  refine ⟨[.about (.pushResult result)], ?_⟩
  simp only [pushResult, StreamTable.undergo, List.foldl_cons, List.foldl_nil,
    StreamTable.respond, StreamTable.reply]
  cases s.streams.pushResult result <;> rfl

theorem leads_play (s : System) (channel : ChannelId) (player : Player) :
    Leads minLength p s.streams (s.play channel player).streams := by
  refine ⟨[.about (.play channel player)], ?_⟩
  simp only [play, StreamTable.undergo, List.foldl_cons, List.foldl_nil,
    StreamTable.respond, StreamTable.reply]
  cases s.streams.find? channel <;> rfl

theorem leads_tickLoop (s : System) (l : FrameLoop) :
    Leads minLength s.config.playback s.streams (s.tickLoop l).streams := by
  simp only [tickLoop]
  split
  · exact .refl _
  split
  · exact .refl _
  split
  · exact .refl _
  split
  · exact .refl _
  · next streams shown calls rendered =>
    refine ⟨[.about (.render l.channel)], ?_⟩
    simp only [StreamTable.undergo, List.foldl_cons, List.foldl_nil, StreamTable.respond,
      StreamTable.reply, rendered, trace_observeCalls]
    cases shown <;> rfl

theorem leads_act (s : System) (action : Action) :
    Leads s.config.demux.minPictureLength s.config.playback s.streams (s.act action).streams := by
  cases action with
  | stop => exact leads_performAll _ _
  | command | transport =>
    simp only [act]
    split
    · exact .refl _
    · exact leads_performAll _ _
  | timer timer => exact leads_performAll _ _
  | poll generation =>
    simp only [act]
    split
    · next k _ => exact leads_of_stage (stage_pollSocket s k)
    · exact .refl _
  | attempt generation =>
    simp only [act]
    split
    · next k _ => exact leads_of_stage (stage_attemptSocket s k)
    · exact .refl _
  | tick session =>
    simp only [act]
    split
    · exact leads_tickLoop s _
    · exact .refl _
  | finish =>
    simp only [act, trace_observeCalls]
    exact .call s.streams .drop

/-- Whatever happens makes calls in the table of streams, and changes them in no other way. -/
theorem leads_move (s : System) (m : Move) :
    Leads s.config.demux.minPictureLength s.config.playback s.streams (s.move m).streams := by
  cases m with
  | act action =>
    rw [move]
    split
    · exact leads_act s action
    · exact .refl _
  | connect url => exact leads_of_stage (stage_connect s url)
  | connectConfigured => exact leads_of_stage (stage_connectConfigured s)
  | send message => exact leads_of_stage (stage_order s _)
  | close => exact leads_of_stage (stage_order s _)
  | startStreams bindings => exact leads_startStreams s bindings
  | stopStreams channels => exact leads_stopStreams s channels
  | pushResult result => exact leads_pushResult s result
  | arrive number arrival => exact leads_of_stage (stage_arrive s number arrival)
  | hangUp number => exact leads_of_stage (stage_hangUp s number)
  | play channel player => exact leads_play s channel player
  | shutDown | drop | arrange | wait => exact .refl _

/-- The table of a console comes about by calls. -/
theorem leads_after (config : Config) (moves : List Move) :
    Leads config.demux.minPictureLength config.playback (.empty config.alignment)
      (after config moves).streams := by
  induction moves with
  | nil => exact .refl _
  | cons m past ih =>
    have next := leads_move (after config past) m
    rw [config_after] at next
    exact ih.trans next

theorem ordered_after (config : Config) (moves : List Move) :
    (after config moves).streams.Ordered := by
  obtain ⟨calls, streams_eq⟩ := leads_after config moves
  rw [streams_eq]
  exact StreamTable.ordered_undergo (t := .empty config.alignment) List.Pairwise.nil calls

/-! ## A report -/

/-- A report reads all counters and sets them back, and tells what has been read; nothing else
changes but the time of the next one. -/
theorem act_metrics (s : System) :
    s.act (.timer .metrics) = { s with
      link := { s.link with metrics := s.link.metrics + s.config.metrics.interval }
      streams := s.streams.takeStats.1
      trace := ((s.streams.takeStats.2.flatMap statsNotices).map (.notice s.now)).reverse ++
        s.trace } := by
  have turn_eq : s.link.step s.config s.now (.timer .metrics) =
      ⟨{ s.link with metrics := s.link.metrics + s.config.metrics.interval }, [.reportStreams]⟩ :=
    rfl
  simp only [act, answer, turn_eq, commit, List.foldl_cons, List.foldl_nil, perform,
    trace_notifyAll]

/-- What a report of a console is: for each channel on which a stream runs, in their order, what has
been counted there, directly followed by the notice that the overlay has expired.  To the table it
is the call that reads all counters. -/
structure Reported (s : System) : Prop where
  told : (s.act (.timer .metrics)).trace =
    ((s.streams.takeStats.2.flatMap fun stats =>
      [.streamStats stats, .overlayExpired stats.channel]).map (.notice s.now)).reverse ++ s.trace
  ascending : (s.streams.takeStats.2.map (·.channel)).Pairwise (· < ·)
  active : ∀ channel, channel ∈ s.streams.takeStats.2.map (·.channel) ↔
    (s.streams.find? channel).isSome
  read : ∀ channel stream, s.streams.find? channel = some stream →
    s.streams.reportedBy channel .takeStats =
      [⟨channel, stream.framesPlayed, stream.resultsReceived⟩]
  reset : (s.act (.timer .metrics)).streams =
    (s.streams.respond s.config.demux.minPictureLength s.config.playback .takeStats).1

theorem reported_after (config : Config) (moves : List Move) : Reported (after config moves) := by
  have ordered := ordered_after config moves
  have channels_eq (t : StreamTable) : t.takeStats.2.map (·.channel) = t.running.map (·.1) := by
    rw [StreamTable.takeStats, StreamTable.running, List.map_map, List.map_map]
    rfl
  refine ⟨by rw [act_metrics]; rfl, ?_, ?_, ?_, by rw [act_metrics]; rfl⟩
  · rw [channels_eq]
    exact ordered
  · intro channel
    rw [channels_eq, StreamTable.find?, List.find?_isSome]
    simp [StreamTable.running, Stream.seat]
  · intro channel stream found
    rw [StreamTable.reportedBy_takeStats ordered.distinct found, Stream.takeStats,
      StreamTable.channel_of_find? found]

/-- **Counters lose nothing.**  A session that has a name of its own goes on, whatever calls come,
until one of them ends it.  Each report of its channel says how many pictures its decoder was told
and how many results were let wait since the report before, as far as a word can tell; so as long
as a word can, the sum of what was reported and of what has been counted since is the number of all
of them.  In a console, whose table comes about by such calls, the timer of the metrics makes a
report for exactly the channels on which a stream runs, in their order. -/
theorem counters_law (config : Config) (moves : List Move) (before later : List TableCall)
    (channel : ChannelId) (session : SessionId) (player : Player)
    (apart : session ∉ StreamTable.started (before ++ later))
    (steady : ∀ call ∈ later, call.ends channel = false)
    (measured : ∀ call ∈ later, call.Measures config.demux.minPictureLength) :
    let minLength := config.demux.minPictureLength
    let p := config.playback
    let born := StreamTable.born config.alignment minLength p before channel session player
    (∃ s, (born.undergo minLength p later).find? channel = some s ∧ s.session = session ∧
      StreamTable.Counted minLength channel later
        (StreamTable.heardIn config.alignment minLength p before later channel session player)
        (born.reported minLength p channel later) s) ∧
    Leads minLength p (.empty config.alignment) (after config moves).streams ∧
    Reported (after config moves) := by
  intro minLength p born
  have counted := StreamTable.counted_afterStart config.alignment minLength p channel player apart
    steady measured
  rw [StreamTable.afterStart_eq] at counted
  exact ⟨counted, leads_after config moves, reported_after config moves⟩

/-- A console that takes two bytes for a picture. -/
def keen : Config := { demux := { minPictureLength := 1 } }

/-- A picture of channel 5. -/
def picture : Bytes := Frame.encode ⟨5, 7, [1, 2]⟩

/-- A payload of one byte, which is no picture, and two pictures, with a report between them. -/
theorem counters_law_reported :
    let later : List TableCall := [.feed 5 [1] 1, .about (.route picture), .takeStats,
      .about (.route picture), .about (.pushResult ⟨5, 7, .classification "person"⟩)]
    let born := StreamTable.born keen.alignment 1 keen.playback [] 5 0 {}
    ∃ s, (born.undergo 1 keen.playback later).find? 5 = some s ∧
      ((born.reported 1 keen.playback 5 later).map (·.framesPlayed)).sum + s.framesPlayed = 2 := by
  intro later born
  obtain ⟨⟨s, found, -, counted⟩, -, -⟩ :=
    counters_law keen [] [] later 5 0 {} (by decide) (by decide)
      (by simp [later, TableCall.Measures, keen])
  refine ⟨s, found, (counted.pictures_sum ?_).trans ?_⟩
  · decide
  · decide

end System
end Lookout
