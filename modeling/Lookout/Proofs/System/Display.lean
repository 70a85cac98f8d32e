import Lookout.Proofs.Stream.Isolation
import Lookout.Proofs.System.Attendance
import Lookout.Proofs.System.Stride

/-!
# What is pushed and what is displayed

A result goes into the session that runs on its channel when it is pushed, whether by the client or
by the link, and the frame loop of a session displays results.  Both are read off a run here, each
result together with its session, and `Staged` says how they go together with the streams and the
frame loops at one moment.  Whatever does not change the streams, the loops or what has been
displayed leaves the stage as it is.

## Main definitions

* `Effect.onStreams`, `lodgedBy` — what effects do to the streams, and the results they let wait.
* `System.news` — what is seen in a move.
* `System.pushed`, `System.shown` — the results of a run, with their sessions.
* `Stage`, `Staged` — the streams and the loops, and how they fit what was pushed and displayed.
-/

namespace Lookout

/-! ## Effects on the streams -/

/-- What an effect does to the streams. -/
def Effect.onStreams (minLength : Nat) (t : StreamTable) : Effect → StreamTable
  | .endStreams => t.deactivateAll.1
  | .queueResult result => (t.pushResult result).toOption.getD t
  | .deliver raw => ((t.route minLength raw).toOption.map (·.1)).getD t
  | .reportStreams => t.takeStats.1
  | .dial _ _ | .hand _ _ | .release _ | .notify _ => t

/-- A result that is pushed, with the session it goes into, if one runs on its channel. -/
def StreamTable.lodged (t : StreamTable) (result : Result) : List (Seat × Result) :=
  (t.find? result.channel).toList.map fun s => (s.seat, result)

/-- The result that an effect lets wait. -/
def Effect.lodged (t : StreamTable) : Effect → List (Seat × Result)
  | .queueResult result => t.lodged result
  | _ => []

/-- The results that effects let wait, latest first. -/
def lodgedBy (minLength : Nat) : StreamTable → List Effect → List (Seat × Result)
  | _, [] => []
  | t, effect :: later => lodgedBy minLength (effect.onStreams minLength t) later ++ effect.lodged t

theorem Link.Ending.not_aligned {now : Millis} {error : Option Error} {l : Link} {turn : Turn}
    (ending : Link.Ending now error l turn) (result : Result) :
    Effect.notify (.aligned result) ∉ turn.effects := by
  cases ending <;> simp [Link.parting]

/-- The link displays nothing. -/
theorem Link.Course.not_aligned {config : Config} {now : Millis} {l : Link} {input : Input}
    {turn : Turn} (course : Link.Course config now l input turn) (result : Result) :
    Effect.notify (.aligned result) ∉ turn.effects := by
  cases course with
  | steady minor same quiet => exact fun told => quiet _ told
  | heard message current =>
    intro told
    rcases List.mem_append.1 told with waits | told
    · obtain ⟨other, fault⟩ := Link.eq_queueResult_of_mem waits
      cases fault
    · simp at told
  | dialed | opened | announced | superseded | abandoned => simp
  | closed up ending => simpa using ending.not_aligned result
  | ended cause up ending => exact ending.not_aligned result

/-- What an observation displays. -/
def Observation.aligned? : Observation → Option Result
  | .notice _ (.aligned result) => some result
  | _ => none

/-- The channel that an observation is about, as far as streams go. -/
def Observation.channel? : Observation → Option ChannelId
  | .stream _ call => some call.channel
  | .notice _ (.aligned result) => some result.channel
  | _ => none

namespace System

/-! ## What happens on a run -/

/-- The results that have been displayed, latest first. -/
def displayed (s : System) : List Result := s.trace.filterMap Observation.aligned?

/-- What has been seen since an earlier moment, latest first. -/
def since (s' s : System) : List Observation := s'.trace.take (s'.trace.length - s.trace.length)

/-- What is seen in a move, latest first. -/
def news (s : System) (m : Move) : List Observation := (s.move m).since s

/-- The results that are pushed in a move, latest first. -/
def pushes (s : System) : Move → List (Seat × Result)
  | .pushResult result => s.streams.lodged result
  | m =>
    match s.input? m with
    | some input =>
      lodgedBy s.config.demux.minPictureLength s.streams
        (s.link.step s.config s.now input).effects
    | none => []

/-- The results that a frame loop displays in a move, latest first. -/
def shows (s : System) : Move → List (Seat × Result)
  | .act (.tick session) =>
    match s.loops.find? (·.session == session) with
    | some l => ((s.news (.act (.tick session))).filterMap Observation.aligned?).map (l.seat, ·)
    | none => []
  | _ => []

/-- The results that were pushed on a run, latest first. -/
def pushed (config : Config) : List Move → List (Seat × Result)
  | [] => []
  | m :: past => (after config past).pushes m ++ pushed config past

/-- The results that frame loops have displayed on a run, latest first. -/
def shown (config : Config) : List Move → List (Seat × Result)
  | [] => []
  | m :: past => (after config past).shows m ++ shown config past

theorem since_of_trace_eq {s s' : System} {seen : List Observation}
    (trace_eq : s'.trace = seen ++ s.trace) : s'.since s = seen := by
  simp [since, trace_eq]

@[simp] theorem since_self (s : System) : s.since s = [] := by simp [since]

/-! ## The stage -/

end System

/-- The streams with their loops, and what has been displayed. -/
structure Stage where
  streams : StreamTable
  loops : List FrameLoop
  sessions : Nat
  displayed : List Result

/-- A stage with other streams. -/
def Stage.withStreams (x : Stage) (streams : StreamTable) : Stage := { x with streams }

namespace System

/-- The stage of a console. -/
def stage (s : System) : Stage := ⟨s.streams, s.loops, s.sessions, s.displayed⟩

variable (s : System)

@[simp] theorem stage_observeSocket (k : Socket) (act : SocketAct) :
    (s.observeSocket k act).stage = s.stage := by
  simp only [observeSocket]
  split <;> rfl

@[simp] theorem stage_endSocket (k : Socket) : (s.endSocket k).stage = s.stage := by
  rw [endSocket, stage_observeSocket]
  rfl

@[simp] theorem stage_report (event : TransportEvent) : (s.report event).stage = s.stage := by
  simp only [report]
  split <;> rfl

@[simp] theorem stage_attemptSocket (k : Socket) : (s.attemptSocket k).stage = s.stage := by
  simp only [attemptSocket]
  split
  · rfl
  · next answer due _ =>
    cases answer with
    | refuse => simp [answered]
    | accept =>
      simp only [answered]
      split
      · rw [stage_report]
        rfl
      · rw [stage_endSocket]
        rfl
  · rfl
  · rfl

@[simp] theorem stage_writeNext (k : Socket) (message : WireMessage) :
    (s.writeNext k message).stage = s.stage := by
  simp only [writeNext]
  split
  · simp
  · split <;> simp only [stage_endSocket, stage_observeSocket] <;> rfl

@[simp] theorem stage_readNext (k : Socket) (arrival : Arrival) :
    (s.readNext k arrival).stage = s.stage := by
  simp only [readNext]
  split
  · simp
  · simp
  · simp
  · split <;> simp only [stage_report, stage_endSocket] <;> rfl

@[simp] theorem stage_pollSocket (k : Socket) : (s.pollSocket k).stage = s.stage := by
  simp only [pollSocket]
  split
  · rfl
  · split <;> simp
  · split <;> simp
  · split <;> simp [closeAndEnd]

@[simp] theorem stage_order (command : Command) : (s.order command).1.stage = s.stage := by
  simp only [order]
  split <;> rfl

@[simp] theorem stage_connect (url : String) : (s.connect url).1.stage = s.stage := by
  simp only [connect]
  split
  · rfl
  · exact stage_order s _

@[simp] theorem stage_connectConfigured : s.connectConfigured.1.stage = s.stage := by
  simp only [connectConfigured]
  split
  · exact stage_connect s _
  · rfl

@[simp] theorem stage_arrive (number : Option Nat) (arrival : Arrival) :
    (s.arrive number arrival).1.stage = s.stage := by
  simp only [arrive]
  split
  · rfl
  · split <;> rfl

@[simp] theorem stage_hangUp (number : Option Nat) : (s.hangUp number).1.stage = s.stage := by
  simp only [hangUp]
  split
  · rfl
  · split <;> rfl

theorem trace_observeCalls (calls : List StreamCall) :
    s.observeCalls calls =
      { s with trace := (calls.map (.stream s.now)).reverse ++ s.trace } := by
  simp only [observeCalls]
  induction calls generalizing s with
  | nil => rfl
  | cons call calls ih =>
    rw [List.foldl_cons, ih]
    simp [observe]

@[simp] theorem stage_observeCalls (calls : List StreamCall) :
    (s.observeCalls calls).stage = s.stage := by
  have aside : (calls.map (Observation.stream s.now)).filterMap Observation.aligned? = [] := by
    simp [Observation.aligned?, Function.comp_def]
  rw [trace_observeCalls]
  simp [stage, displayed, aside]

theorem stage_notify {notice : Notice} (aside : ∀ result, notice ≠ .aligned result) :
    (s.notify notice).stage = s.stage := by
  cases notice with
  | aligned result => exact absurd rfl (aside result)
  | _ => rfl

theorem stage_notifyAll {notices : List Notice}
    (aside : ∀ notice ∈ notices, ∀ result, notice ≠ .aligned result) :
    (notices.foldl notify s).stage = s.stage := by
  induction notices generalizing s with
  | nil => rfl
  | cons notice notices ih =>
    rw [List.foldl_cons, ih _ fun other member => aside other (.tail _ member),
      stage_notify s (aside notice (.head _))]

/-- What an effect does to the stage. -/
theorem stage_perform {effect : Effect} (silent : ∀ result, effect ≠ .notify (.aligned result)) :
    (s.perform effect).stage =
      s.stage.withStreams (effect.onStreams s.config.demux.minPictureLength s.streams) := by
  cases effect with
  | dial | hand | release => rfl
  | notify notice => exact stage_notify s fun result fault => silent result (fault ▸ rfl)
  | endStreams => exact stage_observeCalls _ _
  | queueResult result =>
    simp only [perform, Effect.onStreams]
    cases s.streams.pushResult result <;> rfl
  | deliver raw =>
    simp only [perform, Effect.onStreams]
    cases s.streams.route s.config.demux.minPictureLength raw with
    | error fault => rfl
    | ok delivered => exact stage_observeCalls _ _
  | reportStreams =>
    refine stage_notifyAll _ fun notice member result => ?_
    obtain ⟨stats, -, member⟩ := List.mem_flatMap.1 member
    obtain rfl | rfl : notice = .streamStats stats ∨ notice = .overlayExpired stats.channel := by
      simpa [statsNotices] using member
    · rintro ⟨⟩
    · rintro ⟨⟩

theorem stage_performAll {effects : List Effect}
    (silent : ∀ result, .notify (.aligned result) ∉ effects) :
    (effects.foldl perform s).stage = s.stage.withStreams
      (effects.foldl (Effect.onStreams s.config.demux.minPictureLength) s.streams) := by
  induction effects generalizing s with
  | nil => rfl
  | cons effect effects ih =>
    have first : (s.perform effect).stage = _ :=
      stage_perform s fun result same => silent result (same ▸ .head _)
    have streams : (s.perform effect).streams = _ := congrArg Stage.streams first
    rw [List.foldl_cons, ih _ fun result member => silent result (.tail _ member), first,
      (performed_perform s effect).config_eq, streams]
    rfl

end System

end Lookout
