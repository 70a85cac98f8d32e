import Lookout.Proofs.System.Run

/-!
# What a move can do

`Performed` says that one console follows from another by effects of the link, as far as the link
and its sockets go; the streams and everything else are left open.  `Deed` lists what the task of a
socket can do in one step, and `Stride` what a move can do: it says what the link answers, what
arrives, and what becomes of the sockets.  Every move is a stride (`stride_move`), and every law
about a run is a case analysis on `Stride`.
-/

namespace Lookout

/-- What an effect does to the sockets. -/
def Effect.onSockets (sockets : List Socket) : Effect → List Socket
  | .dial generation url => sockets ++ [System.freshSocket generation url]
  | .hand generation message =>
    sockets.map fun k => if k.generation == generation then System.Socket.enqueue message k else k
  | .release generation =>
    sockets.map fun k => if k.generation == generation then { k with released := true } else k
  | _ => sockets

namespace System

/-! ## Effects -/

/-- A console after effects, as far as the link and its sockets go. -/
structure Performed (s : System) (effects : List Effect) (s' : System) : Prop where
  config_eq : s'.config = s.config
  link_eq : s'.link = s.link
  driving_eq : s'.driving = s.driving
  shutDown_eq : s'.shutDown = s.shutDown
  transport_eq : s'.transport = s.transport
  sockets_eq : s'.sockets = effects.foldl Effect.onSockets s.sockets
  notices_eq :
    s'.linkNotices = (effects.filterMap Effect.linkNotice?).reverse ++ s.linkNotices

variable {s s' s'' : System} {effects later : List Effect}

theorem Performed.refl (s : System) : Performed s [] s := ⟨rfl, rfl, rfl, rfl, rfl, rfl, rfl⟩

theorem Performed.trans (first : Performed s effects s') (second : Performed s' later s'') :
    Performed s (effects ++ later) s'' where
  config_eq := second.config_eq.trans first.config_eq
  link_eq := second.link_eq.trans first.link_eq
  driving_eq := second.driving_eq.trans first.driving_eq
  shutDown_eq := second.shutDown_eq.trans first.shutDown_eq
  transport_eq := second.transport_eq.trans first.transport_eq
  sockets_eq := by rw [second.sockets_eq, first.sockets_eq, List.foldl_append]
  notices_eq := by
    rw [second.notices_eq, first.notices_eq, List.filterMap_append, List.reverse_append,
      List.append_assoc]

/-- What is seen of anything but the link is no notice of it. -/
theorem performed_observe (s : System) {o : Observation} (aside : o.linkNotice? = none) :
    Performed s [] (s.observe o) :=
  ⟨rfl, rfl, rfl, rfl, rfl, rfl, by simp [linkNotices, observe, aside]⟩

/-- What is repeated leaves alone what each of its steps leaves alone. -/
theorem performed_foldl {α : Type} {step : System → α → System} {xs : List α}
    (each : ∀ s, ∀ x ∈ xs, Performed s [] (step s x)) (s : System) :
    Performed s [] (xs.foldl step s) := by
  induction xs generalizing s with
  | nil => exact .refl s
  | cons x xs ih =>
    have first := each s x (.head _)
    exact first.trans (ih (fun s other member => each s other (.tail _ member)) (step s x))

theorem performed_observeCalls (s : System) (calls : List StreamCall) :
    Performed s [] (s.observeCalls calls) :=
  performed_foldl (fun s _ _ => performed_observe s rfl) s

theorem performed_observeSocket (s : System) (k : Socket) (act : SocketAct) :
    Performed s [] (s.observeSocket k act) := by
  simp only [observeSocket]
  split
  · exact performed_observe s rfl
  · exact .refl s

theorem performed_notify (s : System) (notice : Notice) :
    Performed s [.notify notice] (s.notify notice) := by
  refine ⟨rfl, rfl, rfl, rfl, rfl, rfl, ?_⟩
  cases told : notice.isLink <;>
    simp [linkNotices, notify, observe, Observation.linkNotice?, Effect.linkNotice?, told]

theorem performed_notifyAll (s : System) {notices : List Notice}
    (aside : ∀ notice ∈ notices, notice.isLink = false) :
    Performed s [] (notices.foldl notify s) := by
  refine performed_foldl (fun s notice member => performed_observe s ?_) s
  simp [Observation.linkNotice?, aside notice member]

/-- The streams are nothing to the link and its sockets. -/
theorem performed_streams (s : System) (streams : StreamTable) :
    Performed s [] { s with streams } := ⟨rfl, rfl, rfl, rfl, rfl, rfl, rfl⟩

/-- An effect on the streams alone is no effect here. -/
theorem Performed.aside (done : Performed s [] s') {effect : Effect}
    (still : ∀ sockets, Effect.onSockets sockets effect = sockets)
    (silent : effect.linkNotice? = none) : Performed s [effect] s' where
  config_eq := done.config_eq
  link_eq := done.link_eq
  driving_eq := done.driving_eq
  shutDown_eq := done.shutDown_eq
  transport_eq := done.transport_eq
  sockets_eq := by rw [done.sockets_eq, List.foldl_cons, still]
  notices_eq := by rw [done.notices_eq, List.filterMap_cons, silent]

theorem performed_perform (s : System) (effect : Effect) :
    Performed s [effect] (s.perform effect) := by
  cases effect with
  | dial | hand | release => exact ⟨rfl, rfl, rfl, rfl, rfl, rfl, rfl⟩
  | notify notice => exact performed_notify s notice
  | endStreams =>
    exact ((performed_streams s _).trans (performed_observeCalls _ _)).aside (fun _ => rfl) rfl
  | queueResult result =>
    simp only [perform]
    split
    · exact (performed_streams s _).aside (fun _ => rfl) rfl
    · exact (Performed.refl s).aside (fun _ => rfl) rfl
  | deliver raw =>
    simp only [perform]
    split
    · exact ((performed_streams s _).trans (performed_observeCalls _ _)).aside (fun _ => rfl) rfl
    · exact (Performed.refl s).aside (fun _ => rfl) rfl
  | reportStreams =>
    refine Performed.aside ((performed_streams s _).trans (performed_notifyAll _ ?_))
      (fun _ => rfl) rfl
    intro notice member
    obtain ⟨stats, -, member⟩ := List.mem_flatMap.1 member
    obtain rfl | rfl : notice = .streamStats stats ∨ notice = .overlayExpired stats.channel := by
      simpa [statsNotices] using member
    · rfl
    · rfl

theorem performed_performAll (s : System) (effects : List Effect) :
    Performed s effects (effects.foldl perform s) := by
  induction effects generalizing s with
  | nil => exact .refl s
  | cons effect effects ih => exact (performed_perform s effect).trans (ih (s.perform effect))

/-- A turn that is taken over has its effects. -/
theorem performed_commit (s : System) (turn : Turn) :
    Performed { s with link := turn.link } turn.effects (s.commit turn) :=
  performed_performAll _ turn.effects

/-! ## Sockets -/

/-- A socket whose task has ended. -/
def retired (k : Socket) : Socket := { k with phase := .ended, outbound := [], inbound := [] }

/-- What the task of a socket can make of it in one step, and what it reports. -/
inductive Deed (s : System) (k : Socket) : Socket → List TransportEvent → Prop where
  | dialed {answer : Answer} {due : Millis} (fresh : k.phase = .spawned) :
      Deed s k { k with phase := .dialing answer due } []
  | refused {error : Error} (early : k.phase ≠ .running) (live : k.phase ≠ .ended) :
      Deed s k (retired k) [.connectFailed k.generation error]
  | accepted {number : Nat} (early : k.phase ≠ .running) (live : k.phase ≠ .ended) :
      Deed s k { k with phase := .running, number := some number } [.connected k.generation]
  | wrote (running : k.phase = .running) : Deed s k { k with outbound := k.outbound.drop 1 } []
  | read {message : WireMessage} {rest : List Arrival} (running : k.phase = .running)
      (next : k.inbound = .message message :: rest) :
      Deed s k { k with inbound := k.inbound.drop 1 } [.message k.generation message]
  | broke {error : Option Error} (running : k.phase = .running) :
      Deed s k (retired k) [.closed k.generation error]
  /-- the task ends without a word -/
  | left {number : Option Nat}
      (alone : s.cancelled k = true ∨ .close ∈ k.outbound ∨ s.driving = false) :
      Deed s k { retired k with number } []

/-- A console after one step of the task of a socket. -/
def Does (s : System) (k : Socket) (s' : System) : Prop :=
  ∃ f reports, Deed s k (f k) reports ∧
    Performed (reports.foldl report (s.updateSocket k.generation f)) [] s'

theorem Performed.updateSocket (done : Performed s [] s') (generation : Nat)
    (f : Socket → Socket) :
    Performed (s.updateSocket generation f) [] (s'.updateSocket generation f) where
  config_eq := done.config_eq
  link_eq := done.link_eq
  driving_eq := done.driving_eq
  shutDown_eq := done.shutDown_eq
  transport_eq := done.transport_eq
  sockets_eq := congrArg (List.map _) done.sockets_eq
  notices_eq := done.notices_eq

theorem Performed.report (done : Performed s [] s') (event : TransportEvent) :
    Performed (s.report event) [] (s'.report event) := by
  have driving := done.driving_eq
  simp only [System.report]
  by_cases listened : s.driving = true
  · rw [if_pos listened, if_pos (driving.trans listened)]
    exact ⟨done.config_eq, done.link_eq, driving, done.shutDown_eq,
      congrArg (· ++ [event]) done.transport_eq, done.sockets_eq, done.notices_eq⟩
  · rw [if_neg listened, if_neg (by rw [driving]; exact listened)]
    exact done

theorem updateSocket_updateSocket (s : System) (generation : Nat) {f : Socket → Socket}
    (kept : ∀ k, (f k).generation = k.generation) (g : Socket → Socket) :
    (s.updateSocket generation f).updateSocket generation g =
      s.updateSocket generation (g ∘ f) := by
  simp only [System.updateSocket, List.map_map]
  congr 2
  funext k
  by_cases same : k.generation = generation
  · simp [same, kept]
  · simp [same]

theorem performed_endSocket (s : System) (k : Socket) :
    Performed (s.updateSocket k.generation retired) [] (s.endSocket k) :=
  performed_observeSocket _ k .released

theorem does_left {k : Socket}
    (alone : s.cancelled k = true ∨ .close ∈ k.outbound ∨ s.driving = false) :
    Does s k (s.endSocket k) :=
  ⟨retired, [], .left alone, performed_endSocket s k⟩

theorem does_closeAndEnd {k : Socket} (gone : s.cancelled k = true) :
    Does s k (s.closeAndEnd k) := by
  refine ⟨retired, [], .left (.inl gone), ?_⟩
  have observed := performed_observeSocket s k .closed
  exact (observed.updateSocket k.generation retired).trans (performed_endSocket _ k)

theorem does_broke {k : Socket} (running : k.phase = .running) (error : Option Error) :
    Does s k ((s.endSocket k).report (.closed k.generation error)) :=
  ⟨retired, [.closed k.generation error], .broke running, (performed_endSocket s k).report _⟩

theorem does_answered {k : Socket} (early : k.phase ≠ .running) (live : k.phase ≠ .ended)
    (answer : Answer) : Does s k (s.answered k answer) := by
  cases answer with
  | refuse =>
    exact ⟨retired, [.connectFailed k.generation _], .refused early live,
      (performed_endSocket s k).report _⟩
  | accept =>
    have device : Performed s [] { s with
        device := { s.device with accepted := s.device.accepted + 1 } } :=
      ⟨rfl, rfl, rfl, rfl, rfl, rfl, rfl⟩
    have started := device.updateSocket k.generation fun k =>
      { k with phase := .running, number := some (s.device.accepted + 1) }
    simp only [answered]
    by_cases driving : s.driving = true
    · refine ⟨fun k => { k with phase := .running, number := some (s.device.accepted + 1) },
        [.connected k.generation], .accepted early live, ?_⟩
      rw [if_pos (by exact driving)]
      exact started.report _
    · -- Nobody listens any more, so the new socket is given back at once.
      have alone : s.driving = false := by simpa using driving
      refine ⟨fun k => { retired k with number := some (s.device.accepted + 1) }, [],
        .left (.inr (.inr alone)), ?_⟩
      rw [if_neg (by exact driving)]
      have ended := started.updateSocket k.generation retired
      rw [updateSocket_updateSocket _ _ (by intro k; rfl)] at ended
      exact ended.trans (performed_endSocket _ { k with number := some (s.device.accepted + 1) })

theorem does_writeNext {k : Socket} (running : k.phase = .running) {message : WireMessage}
    {rest : List WireMessage} (next : k.outbound = message :: rest) :
    Does s k (s.writeNext k message) := by
  simp only [writeNext]
  split
  · exact does_broke running _
  · cases message with
    | text | binary =>
      exact ⟨fun k => { k with outbound := k.outbound.drop 1 }, [], .wrote running,
        performed_observeSocket _ k _⟩
    | close =>
      refine ⟨retired, [], .left (.inr (.inl (by simp [next]))), ?_⟩
      have written := (performed_observeSocket (s.updateSocket k.generation fun k =>
        { k with outbound := k.outbound.drop 1 }) k .wroteClose).updateSocket k.generation retired
      rw [updateSocket_updateSocket _ _ (by intro k; rfl)] at written
      exact written.trans (performed_endSocket _ k)

theorem does_readNext {k : Socket} (running : k.phase = .running) {arrival : Arrival}
    {rest : List Arrival} (next : k.inbound = arrival :: rest) :
    Does s k (s.readNext k arrival) := by
  simp only [readNext]
  split
  · exact does_broke running _
  · exact does_broke running _
  · exact does_broke running _
  · next message _ =>
    by_cases driving : s.driving = true
    · refine ⟨fun k => { k with inbound := k.inbound.drop 1 }, [.message k.generation message],
        .read running next, ?_⟩
      rw [if_pos (by exact driving)]
      exact .refl _
    · have alone : s.driving = false := by simpa using driving
      refine ⟨retired, [], .left (.inr (.inr alone)), ?_⟩
      rw [if_neg (by exact driving)]
      have ended := performed_endSocket (s.updateSocket k.generation fun k =>
        { k with inbound := k.inbound.drop 1 }) k
      rw [updateSocket_updateSocket _ _ (by intro k; rfl)] at ended
      exact ended

theorem does_attemptSocket {k : Socket} (ready : s.canAttempt k = true) :
    Does s k (s.attemptSocket k) := by
  simp only [attemptSocket]
  split
  · next fresh =>
    exact ⟨fun k => { k with phase := .dialing s.device.answer (s.now + s.device.delay) }, [],
      .dialed fresh, performed_observe _ rfl⟩
  · next dialing => exact does_answered (by simp [dialing]) (by simp [dialing]) _
  · next running => simp [canAttempt, running] at ready
  · next ended => simp [canAttempt, ended] at ready

theorem does_pollSocket {k : Socket} (ready : s.canPoll k = true) : Does s k (s.pollSocket k) := by
  -- Before it is connected, a socket that has been let go ends, and any other goes on.
  have early (live : k.phase ≠ .ended) (attempt : s.cancelled k = false → s.canAttempt k = true) :
      Does s k (if s.cancelled k then s.endSocket k else s.attemptSocket k) := by
    by_cases gone : s.cancelled k = true
    · rw [if_pos gone]
      exact does_left (.inl gone)
    · rw [if_neg gone]
      exact does_attemptSocket (attempt (by simpa using gone))
  simp only [pollSocket]
  split
  · next ended => simp [canPoll, ended] at ready
  · next spawned => exact early (by simp [spawned]) fun _ => by simp [canAttempt, spawned]
  · next dialing =>
    refine early (by simp [dialing]) fun held => ?_
    simpa [canPoll, canAttempt, dialing, held] using ready
  · next running =>
    split
    · next next => exact does_writeNext running next
    · next released => exact does_closeAndEnd (by simp [cancelled, released])
    · next next => exact does_readNext running next
    · next written _ arrived =>
      refine does_closeAndEnd ?_
      simpa [canPoll, running, written, arrived] using ready

/-! ## Calls of the client -/

theorem performed_order (s : System) (command : Command) : Performed s [] (s.order command).1 := by
  simp only [order]
  split
  · exact .refl s
  · exact ⟨rfl, rfl, rfl, rfl, rfl, rfl, rfl⟩

theorem performed_connect (s : System) (url : String) : Performed s [] (s.connect url).1 := by
  simp only [connect]
  split
  · exact .refl s
  · exact performed_order s _

theorem performed_connectConfigured (s : System) : Performed s [] s.connectConfigured.1 := by
  simp only [connectConfigured]
  split
  · exact performed_connect s _
  · exact .refl s

theorem performed_startStreams (s : System) (bindings : List (ChannelId × Player)) :
    Performed s [] ((s.startStreams bindings).elim s (·.1)) := by
  simp only [startStreams]
  cases s.config.alignment.frameInterval? with
  | none => exact .refl s
  | some period =>
    have each (s : System) (binding : ChannelId × Player) (_ : binding ∈ bindings) :
        Performed s [] (startStream period s binding) := by
      have started (streams : StreamTable) (loops : List FrameLoop) (sessions : Nat) :
          Performed s [] { s with streams, loops, sessions } := ⟨rfl, rfl, rfl, rfl, rfl, rfl, rfl⟩
      exact (started _ _ _).trans (performed_observeCalls _ _)
    exact (performed_foldl each s).trans (performed_order _ _)

theorem performed_stopStreams (s : System) (channels : List ChannelId) :
    Performed s [] (s.stopStreams channels).1 := by
  have each (s : System) (channel : ChannelId) (_ : channel ∈ channels) :
      Performed s [] (s.stopStream channel) :=
    (performed_streams s _).trans (performed_observeCalls _ _)
  exact (performed_foldl each s).trans (performed_order _ _)

theorem performed_pushResult (s : System) (result : Result) :
    Performed s [] (s.pushResult result).1 := by
  simp only [pushResult]
  split
  · exact performed_streams s _
  · exact .refl s

theorem performed_play (s : System) (channel : ChannelId) (player : Player) :
    Performed s [] (s.play channel player) := by
  simp only [play]
  split
  · exact performed_streams s _
  · exact .refl s

/-- A frame loop leaves the link and its sockets alone. -/
theorem performed_tickLoop (s : System) (l : FrameLoop) : Performed s [] (s.tickLoop l) := by
  have ended : Performed s [] (s.endLoop l) := ⟨rfl, rfl, rfl, rfl, rfl, rfl, rfl⟩
  simp only [tickLoop]
  split
  · exact ended
  split
  · exact ended
  split
  · exact ended
  split
  · exact ended
  · next streams shown calls _ =>
    have rearmed : Performed s [] { s.rearmLoop l with streams } :=
      ⟨rfl, rfl, rfl, rfl, rfl, rfl, rfl⟩
    have displayed := rearmed.trans (performed_observeCalls _ calls)
    cases shown with
    | none => exact displayed
    | some result => exact displayed.trans (performed_observe _ rfl)

theorem performed_finish (s : System) : Performed s [] (s.act .finish) := by
  have ended (streams : StreamTable) : Performed s [] { s with streams, finished := true } :=
    ⟨rfl, rfl, rfl, rfl, rfl, rfl, rfl⟩
  exact ((ended _).trans (performed_observeCalls _ _)).trans (performed_observe _ rfl)

/-! ## Moves -/

/-- A socket on which something arrives. -/
structure Receives (k : Socket) (arrival : Arrival) (k' : Socket) : Prop where
  generation_eq : k'.generation = k.generation
  phase_eq : k'.phase = k.phase
  outbound_eq : k'.outbound = k.outbound
  released_eq : k'.released = k.released
  number_eq : k'.number = k.number
  inbound_eq : k.phase ≠ .ended → k'.inbound = k.inbound ++ [arrival]

/-- What can come of a move that the link does not answer and that does not end it: what arrives,
and the console after it. -/
inductive Idle (s : System) : Option (Nat × Arrival) → System → Prop where
  /-- the link and its sockets are left alone -/
  | aside {s' : System} (done : Performed s [] s') : Idle s none s'
  /-- the task of a socket takes a step -/
  | did {k : Socket} {s' : System} (member : k ∈ s.sockets) (does : Does s k s') : Idle s none s'
  | came {k : Socket} {f : Socket → Socket} {arrival : Arrival} {s' : System}
      (member : k ∈ s.sockets) (accepted : k.number.isSome) (receives : Receives k arrival (f k))
      (done : Performed (s.updateSocket k.generation f) [] s') :
      Idle s (some (k.generation, arrival)) s'
  | shut {s' : System} (done : Performed { s with shutDown := true } [] s') : Idle s none s'

/-- What can come of a move: what the link answers, what arrives, and the console after it. -/
inductive Stride (s : System) : Option Input → Option (Nat × Arrival) → System → Prop where
  /-- the link and its sockets are left alone -/
  | aside {s' : System} (done : Performed s [] s') : Stride s none none s'
  | answered {input : Input} {rest : List TransportEvent} {s' : System}
      (driving : s.driving = true) (taken : input.event?.toList ++ rest = s.transport)
      (done : Performed
        { s with link := (s.link.step s.config s.now input).link, transport := rest }
        (s.link.step s.config s.now input).effects s') : Stride s (some input) none s'
  /-- the task of a socket takes a step -/
  | did {k : Socket} {s' : System} (member : k ∈ s.sockets) (does : Does s k s') :
      Stride s none none s'
  | came {k : Socket} {f : Socket → Socket} {arrival : Arrival} {s' : System}
      (member : k ∈ s.sockets) (accepted : k.number.isSome) (receives : Receives k arrival (f k))
      (done : Performed (s.updateSocket k.generation f) [] s') :
      Stride s none (some (k.generation, arrival)) s'
  | shut {s' : System} (done : Performed { s with shutDown := true } [] s') :
      Stride s none none s'
  /-- the task that drives the link has ended -/
  | stopped {s' : System} (shut : s.shutDown = true) (still : s'.shutDown = true)
      (quit : s'.driving = false) (config_eq : s'.config = s.config)
      (silent : s'.linkNotices = s.linkNotices) : Stride s none none s'

theorem mem_of_accepted? {number : Option Nat} {k : Socket} (found : s.accepted? number = some k) :
    k ∈ s.sockets ∧ k.number.isSome := by
  have numbered := List.find?_some found
  refine ⟨List.mem_of_find?_eq_some found, ?_⟩
  rw [beq_iff_eq] at numbered
  simp [numbered]

theorem Idle.stride {arrival : Option (Nat × Arrival)} (idle : Idle s arrival s') :
    Stride s none arrival s' := by
  cases idle with
  | aside done => exact .aside done
  | did member does => exact .did member does
  | came member accepted receives done => exact .came member accepted receives done
  | shut done => exact .shut done

theorem idle_act {action : Action} (enabled : s.enabled action = true)
    (silent : s.input? (.act action) = none) (goes_on : action ≠ .stop) :
    Idle s none (s.act action) := by
  cases action with
  | stop => exact absurd rfl goes_on
  | command =>
    cases waiting : s.commands with
    | nil => simp [System.enabled, waiting] at enabled
    | cons => simp [input?, enabled, waiting] at silent
  | transport =>
    cases waiting : s.transport with
    | nil => simp [System.enabled, waiting] at enabled
    | cons => simp [input?, enabled, waiting] at silent
  | timer => simp [input?, enabled] at silent
  | poll generation =>
    simp only [System.enabled] at enabled
    cases found : s.socket? generation with
    | none => simp [found] at enabled
    | some k =>
      rw [found] at enabled
      simp only [act, found]
      exact .did (List.mem_of_find?_eq_some found) (does_pollSocket enabled)
  | attempt generation =>
    simp only [System.enabled] at enabled
    cases found : s.socket? generation with
    | none => simp [found] at enabled
    | some k =>
      rw [found] at enabled
      simp only [act, found]
      exact .did (List.mem_of_find?_eq_some found) (does_attemptSocket enabled)
  | tick session =>
    simp only [act]
    split
    · exact .aside (performed_tickLoop s _)
    · exact .aside (.refl s)
  | finish => exact .aside (performed_finish s)

/-- A move that the link does not answer, and that does not end it, is idle. -/
theorem idle_move {m : Move} (silent : s.input? m = none)
    (goes_on : m = .act .stop → s.enabled .stop = false) :
    Idle s (s.arrival? m) (s.move m) := by
  cases m with
  | act action =>
    by_cases enabled : s.enabled action = true
    · have other : action ≠ .stop := by
        rintro rfl
        cases (goes_on rfl).symm.trans enabled
      rw [move, if_pos enabled]
      exact idle_act enabled silent other
    · rw [move, if_neg enabled]
      exact .aside (.refl s)
  | connect url => exact .aside (performed_connect s url)
  | connectConfigured => exact .aside (performed_connectConfigured s)
  | send | close => exact .aside (performed_order s _)
  | startStreams bindings => exact .aside (performed_startStreams s bindings)
  | stopStreams channels => exact .aside (performed_stopStreams s channels)
  | pushResult result => exact .aside (performed_pushResult s result)
  | shutDown | drop => exact .shut ⟨rfl, rfl, rfl, rfl, rfl, rfl, rfl⟩
  | arrive number arrival =>
    simp only [arrival?, move, arrive]
    cases found : s.accepted? number with
    | none => exact .aside (.refl s)
    | some k =>
      simp only [Option.bind_some]
      split
      · exact .aside (.refl s)
      · exact .came (mem_of_accepted? found).1 (mem_of_accepted? found).2
          ⟨rfl, rfl, rfl, rfl, rfl, fun _ => rfl⟩ (.refl _)
  | hangUp number =>
    simp only [arrival?, move, hangUp]
    cases found : s.accepted? number with
    | none => exact .aside (.refl s)
    | some k =>
      simp only [Option.bind_some]
      split
      · exact .aside (.refl s)
      · exact .came (mem_of_accepted? found).1 (mem_of_accepted? found).2
          ⟨rfl, rfl, rfl, rfl, rfl, fun live => if_neg live⟩ (.refl _)
  | play channel player => exact .aside (performed_play s channel player)
  | arrange | wait => exact .aside ⟨rfl, rfl, rfl, rfl, rfl, rfl, rfl⟩

theorem stride_act (s : System) (action : Action) :
    Stride s (s.input? (.act action)) none (s.move (.act action)) := by
  by_cases enabled : s.enabled action = true
  · simp only [input?, move]
    rw [if_pos enabled, if_pos enabled]
    cases action with
    | stop =>
      simp only [System.enabled, Bool.and_eq_true] at enabled
      have last := performed_commit
        { s with driving := false, commands := [], transport := [] } s.link.shutdown
      refine .stopped enabled.2 (last.shutDown_eq.trans enabled.2) last.driving_eq last.config_eq
        (last.notices_eq.trans ?_)
      cases held : s.link.socket <;>
        simp [Link.shutdown, Link.releaseSocket, Turn.also, held, Effect.linkNotice?, linkNotices]
    | command =>
      simp only [System.enabled, Bool.and_eq_true] at enabled
      cases waiting : s.commands with
      | nil => simp [waiting] at enabled
      | cons command rest =>
        simp only [act, waiting]
        have dequeued : Performed
            { s with link := (s.link.step s.config s.now (.command command)).link } []
            { s with
              link := (s.link.step s.config s.now (.command command)).link
              commands := rest } := ⟨rfl, rfl, rfl, rfl, rfl, rfl, rfl⟩
        exact .answered enabled.1 (List.nil_append _)
          (dequeued.trans (performed_commit { s with commands := rest } _))
    | transport =>
      simp only [System.enabled, Bool.and_eq_true] at enabled
      cases waiting : s.transport with
      | nil => simp [waiting] at enabled
      | cons event rest =>
        simp only [act, waiting]
        refine .answered enabled.1 waiting.symm ?_
        exact performed_commit { s with transport := rest } _
    | timer timer =>
      simp only [System.enabled, Bool.and_eq_true] at enabled
      exact .answered enabled.1 (List.nil_append _) (performed_commit s _)
    | poll | attempt | tick | finish =>
      exact (idle_act enabled (by rw [input?, if_pos enabled]) (by simp)).stride
  · simp only [input?, move]
    rw [if_neg enabled, if_neg enabled]
    exact .aside (.refl s)

/-- **Every move is a stride.** -/
theorem stride_move (s : System) (m : Move) :
    Stride s (s.input? m) (s.arrival? m) (s.move m) := by
  cases m with
  | act action => exact stride_act s action
  | _ => exact (idle_move rfl (by simp)).stride

/-! ## Runs -/

/-- Reports reach the queue as long as the task that drives the link runs. -/
theorem foldl_report (s : System) (events : List TransportEvent) :
    events.foldl report s =
      { s with transport := if s.driving then s.transport ++ events else s.transport } := by
  induction events generalizing s with
  | nil => simp
  | cons event events ih =>
    rw [List.foldl_cons, ih]
    cases listened : s.driving <;> simp [report, listened]

/-- A socket that takes a step leaves the link alone. -/
theorem Does.kept {k : Socket} (does : Does s k s') :
    s'.config = s.config ∧ s'.link = s.link ∧ s'.driving = s.driving ∧ s'.shutDown = s.shutDown ∧
      s'.linkNotices = s.linkNotices := by
  obtain ⟨f, reports, -, done⟩ := does
  rw [foldl_report] at done
  exact ⟨done.config_eq, done.link_eq, done.driving_eq, done.shutDown_eq, done.notices_eq⟩

section
variable {input : Option Input} {arrival : Option (Nat × Arrival)}

theorem Stride.config_eq (stride : Stride s input arrival s') : s'.config = s.config := by
  cases stride with
  | aside done | shut done => exact done.config_eq
  | answered driving taken done => exact done.config_eq
  | did member does => exact does.kept.1
  | came member accepted receives done => exact done.config_eq
  | stopped shut still quit config silent => exact config

/-- A client that has been shut down stays so. -/
theorem Stride.shutDown (stride : Stride s input arrival s') (shut : s.shutDown = true) :
    s'.shutDown = true := by
  cases stride with
  | aside done => exact done.shutDown_eq.trans shut
  | answered driving taken done => exact done.shutDown_eq.trans shut
  | did member does => exact does.kept.2.2.2.1.trans shut
  | came member accepted receives done => exact done.shutDown_eq.trans shut
  | shut done => exact done.shutDown_eq
  | stopped shut still quit config silent => exact still

/-- Nothing but a shutdown ends the task that drives the link, and nothing starts it again. -/
theorem Stride.driving (stride : Stride s input arrival s') :
    s'.driving = s.driving ∨ s'.driving = false ∧ s'.shutDown = true := by
  cases stride with
  | aside done | shut done => exact .inl done.driving_eq
  | answered driving taken done => exact .inl done.driving_eq
  | did member does => exact .inl does.kept.2.2.1
  | came member accepted receives done => exact .inl done.driving_eq
  | stopped shut still quit config silent => exact .inr ⟨quit, still⟩

/-- The link answers while its task runs, and the task goes on. -/
theorem Stride.driving_of_answered {input : Input} (stride : Stride s (some input) arrival s') :
    s.driving = true ∧ s'.driving = true := by
  cases stride with
  | answered driving taken done => exact ⟨driving, done.driving_eq.trans driving⟩

/-- The link changes only when it answers. -/
theorem Stride.link_eq (stride : Stride s input arrival s') (driving : s'.driving = true) :
    s'.link = input.elim s.link fun input => (s.link.step s.config s.now input).link := by
  cases stride with
  | aside done | shut done => exact done.link_eq
  | answered driving taken done => exact done.link_eq
  | did member does => exact does.kept.2.1
  | came member accepted receives done => exact done.link_eq
  | stopped shut still quit config silent =>
    rw [driving] at quit
    cases quit

end

variable (config : Config) (moves : List Move)

theorem config_after : (after config moves).config = config := by
  induction moves with
  | nil => rfl
  | cons m past ih => exact (stride_move _ m).config_eq.trans ih

/-- The task that drives the link runs until the client is shut down. -/
theorem shutDown_of_driving (ended : (after config moves).driving = false) :
    (after config moves).shutDown = true := by
  induction moves with
  | nil => cases ended
  | cons m past ih =>
    rcases (stride_move (after config past) m).driving with same | ⟨-, shut⟩
    · exact (stride_move _ m).shutDown (ih (same.symm.trans ended))
    · exact shut

theorem driving_of_cons {m : Move} (driving : (after config (m :: moves)).driving = true) :
    (after config moves).driving = true := by
  rcases (stride_move (after config moves) m).driving with same | ⟨quit, -⟩
  · exact same.symm.trans driving
  · cases quit.symm.trans driving

theorem driving_of_running (running : (after config moves).shutDown = false) :
    (after config moves).driving = true := by
  rw [← Bool.not_eq_false]
  intro ended
  cases running.symm.trans (shutDown_of_driving config moves ended)

theorem running_of_cons {m : Move} (running : (after config (m :: moves)).shutDown = false) :
    (after config moves).shutDown = false := by
  rw [← Bool.not_eq_true]
  intro shut
  cases running.symm.trans ((stride_move (after config moves) m).shutDown shut)

/-- **The link of a console is the link of its history.** -/
theorem link_after (driving : (after config moves).driving = true) :
    (after config moves).link = Link.after config (inputs config moves) := by
  induction moves with
  | nil => rfl
  | cons m past ih =>
    have link := (stride_move (after config past) m).link_eq driving
    rw [config_after, ih (driving_of_cons config past driving)] at link
    simp only [inputs]
    cases answers : (after config past).input? m with
    | none => rwa [answers] at link
    | some input => rwa [answers] at link

end System
end Lookout
