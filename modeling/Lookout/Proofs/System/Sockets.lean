import Mathlib.Data.List.Nodup
import Lookout.Proofs.System.Account

/-!
# The link, its sockets and the queue between them

`Coherent` holds of the link, the tasks that run its sockets and the queue of their reports at once:
sockets are numbered by the generations of the link, each of them fits the link, and the link has
not heard anything of a socket that it still waits for, nor the end of a socket that it holds.
Every stride keeps it (`Stride.coherent`), whichever task takes it and however long a report has
waited.

## Main definitions

* `saidBy` — the events of a generation.
* `Coherent` — the invariant.
-/

namespace Lookout

/-- Those of the events that come from the socket of a generation. -/
def saidBy (generation : Nat) (events : List TransportEvent) : List TransportEvent :=
  events.filter (·.generation == generation)

@[simp] theorem saidBy_append (generation : Nat) (events later : List TransportEvent) :
    saidBy generation (events ++ later) = saidBy generation events ++ saidBy generation later :=
  List.filter_append ..

theorem saidBy_eq_nil_iff {generation : Nat} {events : List TransportEvent} :
    saidBy generation events = [] ↔ ∀ event ∈ events, event.generation ≠ generation := by
  simp [saidBy, List.filter_eq_nil_iff]

theorem saidBy_eq_self {generation : Nat} {events : List TransportEvent}
    (own : ∀ event ∈ events, event.generation = generation) :
    saidBy generation events = events := by
  simpa [saidBy, List.filter_eq_self] using own

/-! ## Effects on one socket -/

/-- A socket after effects that dial nothing. -/
structure Served (effects : List Effect) (k k' : Socket) : Prop where
  generation_eq : k'.generation = k.generation
  phase_eq : k'.phase = k.phase
  inbound_eq : k'.inbound = k.inbound
  released_iff : k'.released = true ↔ k.released = true ∨ .release k.generation ∈ effects
  outbound : ∀ message ∈ k'.outbound,
    message ∈ k.outbound ∨ .hand k.generation message ∈ effects

theorem Served.refl (effects : List Effect) (k : Socket)
    (kept : .release k.generation ∉ effects) : Served effects k k :=
  ⟨rfl, rfl, rfl, by simp [kept], fun _ member => .inl member⟩

theorem Served.trans {effects later : List Effect} {k k' k'' : Socket}
    (first : Served effects k k') (second : Served later k' k'') :
    Served (effects ++ later) k k'' where
  generation_eq := second.generation_eq.trans first.generation_eq
  phase_eq := second.phase_eq.trans first.phase_eq
  inbound_eq := second.inbound_eq.trans first.inbound_eq
  released_iff := by
    rw [second.released_iff, first.released_iff, first.generation_eq, List.mem_append, or_assoc]
  outbound message member := by
    rw [List.mem_append]
    rcases second.outbound message member with member | handed
    · exact (first.outbound message member).imp_right .inl
    · rw [first.generation_eq] at handed
      exact .inr (.inr handed)

/-- An effect that dials nothing acts on each socket by itself. -/
theorem exists_served_of_effect (effect : Effect)
    (not_dial : ∀ generation url, effect ≠ .dial generation url) :
    ∃ f, (∀ sockets, Effect.onSockets sockets effect = sockets.map f) ∧
      ∀ k, Served [effect] k (f k) := by
  cases effect with
  | dial generation url => exact absurd rfl (not_dial generation url)
  | hand generation message =>
    refine ⟨_, fun sockets => rfl, fun k => ?_⟩
    by_cases own : k.generation = generation
    · subst own
      simp only [beq_self_eq_true, if_true, System.Socket.enqueue]
      split
      · exact .refl _ k (by simp)
      · exact ⟨rfl, rfl, rfl, by simp, by simp⟩
    · simp only [beq_iff_eq, own, if_false]
      exact .refl _ k (by simp)
  | release generation =>
    refine ⟨_, fun sockets => rfl, fun k => ?_⟩
    by_cases own : k.generation = generation
    · subst own
      simp only [beq_self_eq_true, if_true]
      exact ⟨rfl, rfl, rfl, by simp, fun _ member => .inl member⟩
    · simp only [beq_iff_eq, own, if_false]
      exact .refl _ k (by simpa using own)
  | _ => exact ⟨id, fun sockets => (List.map_id sockets).symm, fun k => .refl _ k (by simp)⟩

theorem exists_served (effects : List Effect) (sockets : List Socket)
    (not_dial : ∀ generation url, .dial generation url ∉ effects) :
    ∃ f, effects.foldl Effect.onSockets sockets = sockets.map f ∧
      ∀ k, Served effects k (f k) := by
  induction effects generalizing sockets with
  | nil => exact ⟨id, (List.map_id sockets).symm, fun k => .refl [] k (by simp)⟩
  | cons effect effects ih =>
    obtain ⟨f, mapped, served⟩ := exists_served_of_effect effect fun generation url same =>
      not_dial generation url (same ▸ .head _)
    obtain ⟨g, later, servedLater⟩ := ih (sockets.map f) fun generation url member =>
      not_dial generation url (.tail _ member)
    refine ⟨g ∘ f, ?_, fun k => (served k).trans (servedLater (f k))⟩
    rw [List.foldl_cons, mapped, later, List.map_map]

namespace System

/-! ## The invariant -/

/-- The link, its sockets and the queue between them fit together.  `handled` are the reports that
the link has answered, and `arrived` is what has arrived on the socket of each generation. -/
structure Coherent (s : System) (handled : List TransportEvent) (arrived : Nat → List Arrival) :
    Prop where
  sound : Link.Sound s.config s.link
  generations : s.sockets.map (·.generation) = List.range' 1 s.link.lifecycle.generation
  started : s.link.state ≠ .disconnected → 0 < s.link.lifecycle.generation
  fits : ∀ k ∈ s.sockets, Fits s.link s.shutDown k (arrived k.generation)
    (saidBy k.generation (handled ++ s.transport))
  -- Nothing is heard of a generation before its socket is started.
  unborn : ∀ generation, generation ∉ s.sockets.map (·.generation) →
    saidBy generation (handled ++ s.transport) = [] ∧ arrived generation = []
  unheard : s.link.state = .connecting →
    ∀ event ∈ handled, event.generation ≠ s.link.lifecycle.generation
  -- The end of a socket that is held may wait in the queue, but it has not been answered.
  unended : s.link.state ≠ .disconnected →
    ∀ event ∈ handled, event.generation = s.link.lifecycle.generation → event.isEnd = false

theorem coherent_new (config : Config) : Coherent (new config) [] fun _ => [] where
  sound := Link.sound_new config
  generations := rfl
  started up := absurd rfl up
  fits := nofun
  unborn _ _ := ⟨rfl, rfl⟩
  unheard _ := nofun
  unended _ := nofun

section
variable {s s' : System} {handled : List TransportEvent} {arrived : Nat → List Arrival}

/-- No two sockets have the same generation. -/
theorem Coherent.nodup_generations (coherent : Coherent s handled arrived) :
    (s.sockets.map (·.generation)).Nodup := by
  rw [coherent.generations]
  exact List.nodup_range'

theorem Coherent.eq_of_generation (coherent : Coherent s handled arrived) {k other : Socket}
    (member : k ∈ s.sockets) (member' : other ∈ s.sockets)
    (same : other.generation = k.generation) : other = k :=
  List.inj_on_of_nodup_map coherent.nodup_generations member' member same

/-- The socket of a link that is not down has been started. -/
theorem Coherent.generation_mem (coherent : Coherent s handled arrived)
    (up : s.link.state ≠ .disconnected) :
    s.link.lifecycle.generation ∈ s.sockets.map (·.generation) := by
  rw [coherent.generations, List.mem_range'_1]
  have := coherent.started up
  omega

/-- Every socket, started or not, keeps to its account. -/
theorem Coherent.account (coherent : Coherent s handled arrived) (generation : Nat) :
    Account generation (arrived generation) (saidBy generation (handled ++ s.transport)) := by
  by_cases born : generation ∈ s.sockets.map (·.generation)
  · obtain ⟨k, member, rfl⟩ := List.mem_map.1 born
    exact (coherent.fits k member).traced.account
  · rw [(coherent.unborn generation born).1]
    exact .silent

/-- A message that is the next report comes from a socket that has said it is connected. -/
theorem Coherent.not_connecting (coherent : Coherent s handled arrived) {message : WireMessage}
    {rest : List TransportEvent}
    (next : s.transport = .message s.link.lifecycle.generation message :: rest) :
    s.link.state ≠ .connecting := by
  intro connecting
  have account := coherent.account s.link.lifecycle.generation
  have mute := saidBy_eq_nil_iff.2 (coherent.unheard connecting)
  rw [saidBy_append, mute, next, List.nil_append, saidBy, List.filter_cons,
    if_pos (by simp [TransportEvent.generation])] at account
  exact account.not_message

/-! ## Steps that do not concern the link -/

/-- Nothing but the sockets matters of what effects do. -/
theorem Coherent.of_performed {effects : List Effect} (done : Performed s effects s')
    (coherent : Coherent { s with sockets := effects.foldl Effect.onSockets s.sockets } handled
      arrived) : Coherent s' handled arrived where
  sound := by rw [done.config_eq, done.link_eq]; exact coherent.sound
  generations := by rw [done.sockets_eq, done.link_eq]; exact coherent.generations
  started := by rw [done.link_eq]; exact coherent.started
  fits := by
    rw [done.sockets_eq, done.link_eq, done.shutDown_eq, done.transport_eq]
    exact coherent.fits
  unborn := by rw [done.sockets_eq, done.transport_eq]; exact coherent.unborn
  unheard := by rw [done.link_eq]; exact coherent.unheard
  unended := by rw [done.link_eq]; exact coherent.unended

/-- After a shutdown a socket that has ended owes no report. -/
theorem Coherent.shut (coherent : Coherent s handled arrived) :
    Coherent { s with shutDown := true } handled arrived :=
  { coherent with
    fits := fun k member =>
      let fits := coherent.fits k member
      ⟨fits.held_iff, fits.close, fits.traced, fun _ _ => nofun⟩ }

/-- One socket changes, with the reports and the arrivals of its generation. -/
theorem Coherent.update (coherent : Coherent s handled arrived) {k : Socket}
    (member : k ∈ s.sockets) {f : Socket → Socket} (same : (f k).generation = k.generation)
    {transport : List TransportEvent} {later : Nat → List Arrival}
    (said : ∀ generation, generation ≠ k.generation →
      saidBy generation (handled ++ transport) = saidBy generation (handled ++ s.transport))
    (met : ∀ generation, generation ≠ k.generation → later generation = arrived generation)
    (fits : Fits s.link s.shutDown (f k) (later k.generation)
      (saidBy k.generation (handled ++ transport))) :
    Coherent { s.updateSocket k.generation f with transport } handled later := by
  have generations : (s.updateSocket k.generation f).sockets.map (·.generation) =
      s.sockets.map (·.generation) := by
    simp only [updateSocket, List.map_map]
    refine List.map_congr_left fun other member' => ?_
    by_cases own : other.generation = k.generation
    · have eq := coherent.eq_of_generation member member' own
      subst eq
      simp [same]
    · simp [own]
  refine ⟨coherent.sound, generations.trans coherent.generations, coherent.started, ?_, ?_,
    coherent.unheard, coherent.unended⟩
  · intro k' member'
    obtain ⟨other, old, rfl⟩ := List.mem_map.1 member'
    by_cases own : other.generation = k.generation
    · have eq := coherent.eq_of_generation member old own
      subst eq
      simp only [beq_self_eq_true, if_true, same]
      exact fits
    · simp only [beq_iff_eq, own, if_false]
      rw [said _ own, met _ own]
      exact coherent.fits other old
  · intro generation fresh
    have other : generation ≠ k.generation := by
      rintro rfl
      exact fresh (generations.symm ▸ List.mem_map_of_mem member)
    rw [said _ other, met _ other]
    exact coherent.unborn generation (generations ▸ fresh)

/-- The task of a socket takes a step, and what it reports is queued. -/
theorem Coherent.did (coherent : Coherent s handled arrived) {k : Socket}
    (member : k ∈ s.sockets) (does : Does s k s') (driving : s.driving = true) :
    Coherent s' handled arrived := by
  obtain ⟨f, reports, deed, done⟩ := does
  rw [foldl_report] at done
  refine Coherent.of_performed done ?_
  have listened : (s.updateSocket k.generation f).driving = true := driving
  rw [if_pos listened]
  have own := saidBy_eq_self fun _ => deed.generation_of_mem
  refine coherent.update member deed.generation_eq ?_ (fun _ _ => rfl) ?_
  · intro generation other
    have none : saidBy generation reports = [] := by
      rw [saidBy_eq_nil_iff]
      intro event reported
      rw [deed.generation_of_mem reported]
      exact other.symm
    rw [← List.append_assoc, saidBy_append, saidBy_append]
    simp only [updateSocket, none, List.append_nil, saidBy_append]
  · have fits := deed.fits driving (coherent.fits k member)
    simpa [updateSocket, own, List.append_assoc] using fits

/-- Something arrives on a socket, and waits there to be read. -/
theorem Coherent.came (coherent : Coherent s handled arrived) {k : Socket}
    (member : k ∈ s.sockets) {f : Socket → Socket} {arrival : Arrival}
    (receives : Receives k arrival (f k)) :
    Coherent (s.updateSocket k.generation f) handled fun generation =>
      arrived generation ++ if k.generation = generation then [arrival] else [] := by
  have fits := coherent.fits k member
  refine coherent.update member receives.generation_eq (fun _ _ => rfl) ?_ ?_
  · intro generation other
    rw [if_neg other.symm, List.append_nil]
  · refine ⟨?_, ?_, ?_, ?_⟩
    · rw [receives.released_eq, receives.generation_eq]
      exact fits.held_iff
    · rw [receives.outbound_eq, receives.released_eq]
      exact fits.close
    · rw [if_pos rfl]
      exact fits.traced.receives receives
    · rw [receives.phase_eq, receives.released_eq]
      exact fits.ended

/-! ## The link answers -/

/-- A new attempt gets a socket of its own, of which nobody has heard. -/
theorem Coherent.dialed (coherent : Coherent s handled arrived) {url : String}
    (sound : Link.Sound s.config (s.link.dialing url)) (down : s.link.state = .disconnected) :
    Coherent
      { s with
        link := s.link.dialing url
        sockets := s.sockets ++ [freshSocket (s.link.lifecycle.generation + 1) url] }
      handled arrived := by
  have old : ∀ k ∈ s.sockets, k.generation ≠ s.link.lifecycle.generation + 1 := by
    intro k member
    have born := List.mem_map_of_mem (f := (·.generation)) member
    rw [coherent.generations, List.mem_range'_1] at born
    omega
  obtain ⟨mute, unmet⟩ := coherent.unborn (s.link.lifecycle.generation + 1) fun born => by
    obtain ⟨k, member, same⟩ := List.mem_map.1 born
    exact old k member same
  have silent : ∀ event ∈ handled, event.generation ≠ s.link.lifecycle.generation + 1 := by
    intro event member
    exact saidBy_eq_nil_iff.1 mute event (List.mem_append_left _ member)
  refine ⟨sound, ?_, fun _ => Nat.succ_pos _, ?_, ?_, fun _ => silent,
    fun _ event member same => absurd same (silent event member)⟩
  · rw [List.map_append, coherent.generations]
    simp only [List.map_cons, List.map_nil, freshSocket, Link.dialing]
    rw [List.range'_1_concat, Nat.add_comm 1]
  · intro k member
    rcases List.mem_append.1 member with member | fresh
    · have fits := coherent.fits k member
      -- A link that is down holds none of the sockets it has had.
      have released : k.released = true := by
        rw [← Bool.not_eq_false, fits.held_iff, coherent.sound.socket_eq, if_pos down]
        simp
      refine ⟨?_, fits.close, fits.traced, ?_⟩
      · rw [released]
        constructor
        · intro held
          cases held
        · intro held
          exact absurd (Option.some.inj held).symm (old k member)
      · intro _ held
        cases released.symm.trans held
    · rw [List.mem_singleton.1 fresh]
      refine ⟨⟨fun _ => rfl, fun _ => rfl⟩, ?_, .early ?_ ?_ mute unmet, ?_⟩ <;> simp [freshSocket]
  · intro generation unborn
    rw [List.map_append, List.mem_append] at unborn
    exact coherent.unborn generation fun born => unborn (.inl born)

/-- A turn that keeps to its generation lets sockets go and hands messages to them. -/
theorem Coherent.fits_served (coherent : Coherent s handled arrived) {turn : Turn}
    (keeps : s.link.Keeps turn) {k k' : Socket} (member : k ∈ s.sockets)
    (served : Served turn.effects k k') :
    Fits turn.link s.shutDown k' (arrived k'.generation)
      (saidBy k'.generation (handled ++ s.transport)) := by
  have fits := coherent.fits k member
  have generation := served.generation_eq
  rw [← generation] at fits
  have kept : k'.released = false → k.released = false := by
    intro held
    cases released : k.released with
    | false => rfl
    | true => exact absurd (served.released_iff.2 (.inl released)) (by simp [held])
  refine ⟨?_, ?_, ?_, ?_⟩
  · rw [← Bool.not_eq_true, served.released_iff, not_or, Bool.not_eq_true, fits.held_iff,
      keeps.held_iff, generation]
  · intro close
    rw [served.released_iff]
    rcases served.outbound _ close with member | handed
    · exact .inl (fits.close member)
    · exact .inr (keeps.close _ handed)
  · exact fits.traced.congr generation served.phase_eq served.inbound_eq
  · intro ended held running
    exact fits.ended (served.phase_eq.symm.trans ended) (kept held) running

/-- The report that has been answered leaves nothing to be said while the link waits for a socket,
and no end while it holds one. -/
theorem Coherent.answered_report (coherent : Coherent s handled arrived) {event : TransportEvent}
    {rest : List TransportEvent} (next : s.transport = event :: rest)
    (own : event.generation = s.link.lifecycle.generation) (held : s.link.state ≠ .disconnected) :
    (s.link.step s.config s.now (.transport event)).link.state = .disconnected ∨
      (s.link.state = .connecting →
        (s.link.step s.config s.now (.transport event)).link.state ≠ .connecting) ∧
        event.isEnd = false := by
  have current : s.link.lifecycle.isCurrent event.generation = true :=
    Link.isCurrent_iff.2 ⟨own, held⟩
  cases event with
  | connected generation =>
    refine .inr ⟨fun connecting => ?_, rfl⟩
    cases own
    simp [Link.state_connected connecting]
  | message generation message =>
    refine .inr ⟨fun connecting => ?_, rfl⟩
    cases own
    exact absurd connecting (coherent.not_connecting next)
  | connectFailed | closed => exact .inl (Link.state_of_isEnd rfl current _ _)

/-- A turn that keeps to its generation lets sockets go, but starts none. -/
theorem Coherent.kept (coherent : Coherent s handled arrived) {input : Input}
    {rest : List TransportEvent} (taken : input.event?.toList ++ rest = s.transport)
    (sound : Link.Sound s.config (s.link.step s.config s.now input).link)
    (keeps : s.link.Keeps (s.link.step s.config s.now input)) :
    Coherent
      { s with
        link := (s.link.step s.config s.now input).link
        transport := rest
        sockets := (s.link.step s.config s.now input).effects.foldl Effect.onSockets s.sockets }
      (handled ++ input.event?.toList) arrived := by
  obtain ⟨f, mapped, served⟩ := exists_served _ s.sockets keeps.not_dial
  -- A report that leaves the queue has been answered, so all that has been said stays the same.
  have log : handled ++ input.event?.toList ++ rest = handled ++ s.transport := by
    rw [List.append_assoc, taken]
  have generations : (s.sockets.map f).map (·.generation) = s.sockets.map (·.generation) := by
    rw [List.map_map]
    exact List.map_congr_left fun k _ => (served k).generation_eq
  have report {event : TransportEvent} (member : event ∈ input.event?.toList) :
      input = .transport event ∧ s.transport = event :: rest := by
    cases input with
    | transport event' =>
      cases List.mem_singleton.1 member
      exact ⟨rfl, taken.symm⟩
    | command | timer => cases member
  rw [mapped]
  refine ⟨sound, ?_, ?_, ?_, ?_, ?_, ?_⟩
  · rw [generations, keeps.generation_eq]
    exact coherent.generations
  · intro up
    rw [keeps.generation_eq]
    exact coherent.started fun down => up (keeps.down down)
  · intro k' member
    obtain ⟨k, old, rfl⟩ := List.mem_map.1 member
    rw [log]
    exact coherent.fits_served keeps old (served k)
  · rw [generations, log]
    exact coherent.unborn
  · intro connecting event member
    have waiting := keeps.connecting connecting
    rw [keeps.generation_eq]
    rcases List.mem_append.1 member with old | new
    · exact coherent.unheard waiting event old
    · obtain ⟨rfl, next⟩ := report new
      intro own
      rcases coherent.answered_report next own (by simp [waiting]) with down | ⟨heard, -⟩
      · cases connecting.symm.trans down
      · exact heard waiting connecting
  · intro held event member own
    rw [keeps.generation_eq] at own
    have before : s.link.state ≠ .disconnected := fun down => held (keeps.down down)
    rcases List.mem_append.1 member with old | new
    · exact coherent.unended before event old own
    · obtain ⟨rfl, next⟩ := report new
      rcases coherent.answered_report next own before with down | ⟨-, goes_on⟩
      · exact absurd down held
      · exact goes_on

/-! ## Runs -/

/-- **Every stride keeps the invariant**, as long as the task that drives the link runs. -/
theorem Stride.coherent {input : Option Input} {arrival : Option (Nat × Arrival)}
    (stride : Stride s input arrival s') (driving : s'.driving = true)
    (coherent : Coherent s handled arrived) :
    Coherent s' (handled ++ (input.bind Input.event?).toList) fun generation =>
      arrived generation ++ ((arrival.filter (·.1 == generation)).toList.map (·.2)) := by
  cases stride with
  | aside done => simpa using Coherent.of_performed done coherent
  | @answered input rest s' driving taken done =>
    have course : Link.Course s.config s.now s.link input _ :=
      Link.course_step coherent.sound s.now input
    have sound := course.sound coherent.sound
    simp only [Option.bind_some, Option.filter_none, Option.toList_none, List.map_nil,
      List.append_nil]
    rcases course.dials_or_keeps coherent.sound with ⟨url, turn, down, unreported⟩ | keeps
    · have none : input.event? = none := by
        cases input with
        | transport event => exact absurd rfl (unreported event)
        | command | timer => rfl
      rw [none] at taken ⊢
      rw [turn] at done sound
      have queue : rest = s.transport := taken
      subst queue
      simpa using Coherent.of_performed done (coherent.dialed sound down)
    · exact Coherent.of_performed done (coherent.kept taken sound keeps)
  | did member does => simpa using coherent.did member does (does.kept.2.2.1.symm.trans driving)
  | @came k f arrival s' member accepted receives done =>
    have came := Coherent.of_performed done (coherent.came member receives)
    have met : (fun generation => arrived generation ++ (((some (k.generation, arrival)).filter
        (·.1 == generation)).toList.map (·.2))) = fun generation =>
          arrived generation ++ if k.generation = generation then [arrival] else [] := by
      funext generation
      by_cases own : k.generation = generation <;> simp [own, Option.filter]
    rw [met]
    simpa using came
  | shut done => simpa using Coherent.of_performed done coherent.shut
  | stopped shut still quit config silent =>
    rw [driving] at quit
    cases quit

end

variable (config : Config) (moves : List Move)

theorem handled_cons (m : Move) (past : List Move) :
    handled config (m :: past) =
      handled config past ++ (((after config past).input? m).bind Input.event?).toList := by
  simp only [handled, inputs]
  cases answers : (after config past).input? m with
  | none => simp
  | some input =>
    cases reported : input.event? with
    | none => simp [reported]
    | some event => simp [reported]

theorem coherent_after (driving : (after config moves).driving = true) :
    Coherent (after config moves) (handled config moves) fun generation =>
      arrived config generation moves := by
  induction moves with
  | nil => exact coherent_new config
  | cons m past ih =>
    rw [handled_cons]
    exact (stride_move _ m).coherent driving (ih (driving_of_cons config past driving))

section
variable {config} {s : System} {handled : List TransportEvent} {arrived : Nat → List Arrival}

/-- At most one socket is held. -/
theorem Coherent.length_held_le (coherent : Coherent s handled arrived) :
    (s.sockets.filter fun k => !k.released).length ≤ 1 := by
  have nodup : s.sockets.Nodup := coherent.nodup_generations.of_map (·.generation)
  have same : ∀ k ∈ s.sockets.filter fun k => !k.released,
      ∀ other ∈ s.sockets.filter fun k => !k.released, other = k := by
    intro k member other member'
    rw [List.mem_filter, Bool.not_eq_true'] at member member'
    have held := (coherent.fits k member.1).held_iff.1 member.2
    have held' := (coherent.fits other member'.1).held_iff.1 member'.2
    exact coherent.eq_of_generation member.1 member'.1 (Option.some.inj (held'.symm.trans held))
  have alone := nodup.filter fun k => !k.released
  revert same alone
  cases s.sockets.filter fun k => !k.released with
  | nil => simp
  | cons k rest =>
    cases rest with
    | nil => simp
    | cons other rest =>
      intro same alone
      have twice := same k (.head _) other (.tail _ (.head _))
      simp [twice] at alone

/-- While a link is not down, its socket goes on or has said once that it has ended, and the link
has not answered that yet. -/
theorem Coherent.countP_isEnd (coherent : Coherent s handled arrived)
    (up : s.link.state ≠ .disconnected) (running : s.shutDown = false) :
    ∃ k ∈ s.sockets, k.generation = s.link.lifecycle.generation ∧ k.released = false ∧
      (saidBy k.generation s.transport).countP TransportEvent.isEnd =
        if k.phase = .ended then 1 else 0 := by
  obtain ⟨k, member, own⟩ := List.mem_map.1 (coherent.generation_mem up)
  have fits := coherent.fits k member
  have held : k.released = false := by
    rw [fits.held_iff, coherent.sound.socket_eq_some up, own]
  refine ⟨k, member, own, held, ?_⟩
  have answered : (saidBy k.generation handled).countP TransportEvent.isEnd = 0 := by
    rw [List.countP_eq_zero]
    intro event heard
    rw [saidBy, List.mem_filter, beq_iff_eq] at heard
    simp [coherent.unended up event heard.1 (heard.2.trans own)]
  have total : (saidBy k.generation (handled ++ s.transport)).countP TransportEvent.isEnd =
      (saidBy k.generation s.transport).countP TransportEvent.isEnd := by
    rw [saidBy_append, List.countP_append, answered, Nat.zero_add]
  rw [← total]
  split
  · next ended =>
    have most := fits.traced.account.countP_isEnd_le
    have least := List.countP_pos_iff.2 (fits.ended ended held running)
    omega
  · next live => exact fits.traced.countP_isEnd live

end

/-- **How the link and its sockets work together**, before the client is shut down.  At most one
socket is not to end, the one of the present generation of a link that is not down.  While a link is
not down, the task of its socket goes on, or has said exactly once that it has ended and the link
will hear of it.  Of each generation, what has been said is an account; so a message that comes
first in the queue while the link waits for its socket is not of that socket.  And a report of
another generation than the present one, or to a link that is down, only leaves the queue. -/
theorem sockets_law (running : (after config moves).shutDown = false) :
    let s := after config moves
    (s.sockets.filter fun k => !s.cancelled k).length ≤ 1 ∧
    (∀ k ∈ s.sockets, s.cancelled k = false →
      k.generation = s.link.lifecycle.generation ∧ s.link.state ≠ .disconnected) ∧
    (s.link.state ≠ .disconnected →
      ∃ k ∈ s.sockets, k.generation = s.link.lifecycle.generation ∧ s.cancelled k = false ∧
        (saidBy k.generation s.transport).countP TransportEvent.isEnd =
          if k.phase = .ended then 1 else 0) ∧
    (∀ generation, Account generation (arrived config generation moves)
      (reports config moves generation)) ∧
    (s.link.state = .connecting → ∀ generation message rest,
      s.transport = .message generation message :: rest →
      generation ≠ s.link.lifecycle.generation) ∧
    (∀ event rest, s.transport = event :: rest →
      event.generation ≠ s.link.lifecycle.generation ∨ s.link.state = .disconnected →
      s.act .transport = { s with transport := rest }) := by
  intro s
  have driving : s.driving = true := by
    rw [← Bool.not_eq_false]
    intro ended
    cases running.symm.trans (shutDown_of_driving config moves ended)
  have coherent := coherent_after config moves driving
  have cancelled (k : Socket) : s.cancelled k = k.released := by
    simp [System.cancelled, s, running]
  refine ⟨?_, ?_, ?_, coherent.account, ?_, ?_⟩
  · simp only [cancelled]
    exact coherent.length_held_le
  · intro k member held
    rw [cancelled, (coherent.fits k member).held_iff, coherent.sound.socket_eq] at held
    split at held
    · cases held
    · next up => exact ⟨(Option.some.inj held).symm, up⟩
  · intro up
    simp only [cancelled]
    exact coherent.countP_isEnd up running
  · rintro connecting generation message rest next rfl
    exact coherent.not_connecting next connecting
  · intro event rest next other
    have stale : s.link.lifecycle.isCurrent event.generation = false := by
      rw [← Bool.not_eq_true, Link.isCurrent_iff]
      rintro ⟨own, up⟩
      exact other.elim (· own) up
    simp only [act, next, answer, Link.step_stale stale]
    rfl

/-- The user closes a link before it has heard that its socket is connected, and connects again. -/
def reconnected : List Move :=
  [.act .command, .connect "ws://device", .act .command, .close, .act (.poll 1),
    .arrive none (.message (.binary [])), .act (.poll 1), .act (.poll 1), .act .command,
    .connect "ws://device"]

/-- The reports of the first socket wait while the second one is dialed. -/
theorem sockets_law_reconnected :
    (after {} reconnected).shutDown = false ∧
    (after {} reconnected).link.state = .connecting ∧
    (after {} reconnected).sockets.length = 2 ∧
    ((after {} reconnected).sockets.filter fun k =>
      !(after {} reconnected).cancelled k).length ≤ 1 ∧
    (reports {} reconnected 1).length = 2 ∧
    Account 1 (arrived {} 1 reconnected) (reports {} reconnected 1) := by
  have running : (after {} reconnected).shutDown = false := by decide +kernel
  obtain ⟨single, -, -, account, -, -⟩ := sockets_law {} reconnected running
  exact ⟨running, by decide +kernel, by decide +kernel, single, by decide +kernel, account 1⟩

end System

end Lookout
