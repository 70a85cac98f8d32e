import Lookout.Proofs.System.Outbound

/-!
# A socket that is let go

The task of a connected socket that is let go goes on writing what is queued, and reads nothing any
more.  Each of its steps takes a message off the queue or is its last, and as long as the device
takes what is written, the last one finds the queue empty (`Draining`).  So all that was posted
before the release is written before the task ends, the close message of the user last of all, and
nothing else is (`outbound_law`).

## Main definitions

* `Flushed` — what becomes of the messages for a socket that is let go.
* `Draining` — a socket that has been let go, some moves later.
-/

namespace Lookout
namespace System

/-! ## One move -/

section
variable {s : System} {m : Move} {k k' : Socket} {handled : List TransportEvent}
  {arrived : Nat → List Arrival}

/-- Nothing is read from a socket that has been let go. -/
theorem exchange?_ne_read (gone : k.released = true) (arrival : Arrival) :
    s.exchange? k ≠ some (.read arrival) := by
  intro reads
  simp only [exchange?, gone] at reads
  split at reads
  · split at reads
    · split at reads <;> cases reads
    · next held _ => cases held
    · cases reads
    · cases reads
  · cases reads

theorem Coherent.polls_of_exchanged (coherent : Coherent s handled arrived)
    (member : k ∈ s.sockets) {x : Exchange} (does : s.exchanged k.generation m = some x) :
    m.polls k.generation = true ∧ s.exchange? k = some x := by
  rw [coherent.exchanged_eq member] at does
  split at does
  · next polled => exact ⟨polled, does⟩
  · cases does

/-- A connected socket that has been let go takes nothing more, and reads nothing more. -/
theorem Fares.released (fares : Fares s m k k') (coherent : Coherent s handled arrived)
    (member : k ∈ s.sockets) (gone : k.released = true)
    (connected : k.phase = .running ∨ k.phase = .ended) :
    k'.number = k.number ∧ k'.released = true ∧ s.posts k.generation m = [] ∧
      (s.exchanged k.generation m).toList.filterMap Exchange.read? = [] := by
  have unread : (s.exchanged k.generation m).toList.filterMap Exchange.read? = [] := by
    cases does : s.exchanged k.generation m with
    | none => rfl
    | some x =>
      cases x with
      | wrote | refused => rfl
      | read arrival =>
        exact absurd (coherent.polls_of_exchanged member does).2 (exchange?_ne_read gone arrival)
  cases fares with
  | supplied supplied idle =>
    obtain ⟨none, still⟩ := supplied.released gone
    exact ⟨supplied.number_eq, still, none, unread⟩
  | pumped mute pump =>
    refine ⟨?_, ?_, mute, unread⟩
    · rcases pump.number with ⟨kept, -⟩ | ⟨-, -, ⟨early, live⟩, -⟩
      · exact kept
      · exact (connected.elim early live).elim
    · generalize s.exchanged k.generation m = x at pump
      cases pump <;> exact gone

/-- **Each step of its task takes a message off the queue or is the last one.** -/
theorem Fares.drains (fares : Fares s m k k') (coherent : Coherent s handled arrived)
    (member : k ∈ s.sockets) (gone : k.released = true) (running : k.phase = .running) :
    k'.phase = .ended ∨ k'.phase = .running ∧
      k'.outbound.length + (if m.polls k.generation then 1 else 0) = k.outbound.length := by
  cases fares with
  | supplied supplied idle =>
    obtain ⟨none, -⟩ := supplied.released gone
    have unpolled : m.polls k.generation = false := by
      rw [← Bool.not_eq_true]
      intro polled
      simpa [canPoll, running, cancelled, gone] using idle polled
    refine .inr ⟨supplied.phase_eq.trans running, ?_⟩
    rw [supplied.outbound_eq, none, ite_self, List.append_nil, unpolled]
    rfl
  | pumped mute pump =>
    generalize does : s.exchanged k.generation m = x at pump
    cases pump with
    | dialed early | accepted early => exact absurd running early
    | failed | closed | refused | ended | left => exact .inl rfl
    | wrote _ next =>
      obtain ⟨polled, -⟩ := coherent.polls_of_exchanged member does
      refine .inr ⟨running, ?_⟩
      rw [if_pos polled, next]
      rfl
    | read _ further =>
      exact absurd (coherent.polls_of_exchanged member does).2 (exchange?_ne_read gone _)

/-- A task that has ended does nothing. -/
theorem Fares.ended (fares : Fares s m k k') (ended : k.phase = .ended) : k'.phase = .ended := by
  cases fares with
  | supplied supplied idle => exact supplied.phase_eq.trans ended
  | pumped mute pump =>
    generalize s.exchanged k.generation m = x at pump
    cases pump with
    | dialed _ live | accepted _ live => exact absurd ended live
    | failed => rfl
    | wrote running | closed running | refused running | read running | ended running
      | left running => cases ended.symm.trans running

end

/-! ## Runs -/

variable {config : Config} {later past : List Move} {k : Socket}

theorem running_of_append (kept : (after config (later ++ past)).shutDown = false) :
    (after config past).shutDown = false := by
  induction later with
  | nil => exact kept
  | cons m later ih => exact ih (running_of_cons config (later ++ past) kept)

theorem prefix_exchanges (generation : Nat) :
    exchanges config generation past <+: exchanges config generation (later ++ past) := by
  induction later with
  | nil => exact List.prefix_rfl
  | cons m later ih => exact ih.trans (List.prefix_append _ _)

theorem refused_of_append {generation : Nat}
    (taken : refused config generation (later ++ past) = []) :
    refused config generation past = [] := by
  have before : exchanges config generation past <+: exchanges config generation (later ++ past) :=
    prefix_exchanges generation
  exact List.prefix_nil.1 (taken ▸ before.filterMap Exchange.refused?)

/-- A socket that has been let go, some moves later. -/
structure Draining (config : Config) (later past : List Move) (k k' : Socket) : Prop where
  member : k' ∈ (after config (later ++ past)).sockets
  generation_eq : k'.generation = k.generation
  number_eq : k'.number = k.number
  released : k'.released = true
  posted_eq : posted config k.generation (later ++ past) = posted config k.generation past
  readings_eq : readings config k.generation (later ++ past) = readings config k.generation past
  progress : k'.phase = .ended ∨ k'.phase = .running ∧
    k'.outbound.length + later.countP (Move.polls k.generation) = k.outbound.length

theorem draining_after (kept : (after config (later ++ past)).shutDown = false)
    (member : k ∈ (after config past).sockets) (gone : k.released = true)
    (running : k.phase = .running) : ∃ k', Draining config later past k k' := by
  induction later with
  | nil => exact ⟨k, member, rfl, rfl, gone, rfl, rfl, .inr ⟨running, rfl⟩⟩
  | cons m later ih =>
    have before := running_of_cons config (later ++ past) kept
    obtain ⟨k', draining⟩ := ih before
    have coherent := coherent_of_running config (later ++ past) before
    obtain ⟨k'', member', generation, fares⟩ :=
      (traffic_after config (later ++ past) before m).fares coherent draining.member
    have own := draining.generation_eq
    have connected : k'.phase = .running ∨ k'.phase = .ended :=
      draining.progress.symm.imp_left (·.1)
    obtain ⟨number, released, none, unread⟩ :=
      fares.released coherent draining.member draining.released connected
    rw [own] at none unread
    refine ⟨k'', member', generation.trans own, number.trans draining.number_eq, released, ?_, ?_,
      ?_⟩
    · exact (congrArg₂ (· ++ ·) draining.posted_eq none).trans (List.append_nil _)
    · simp only [readings, List.cons_append, exchanges, List.filterMap_append, unread,
        List.append_nil]
      exact draining.readings_eq
    · rcases draining.progress with ended | ⟨running, count⟩
      · exact .inl (fares.ended ended)
      · refine (fares.drains coherent draining.member draining.released running).imp_right ?_
        rintro ⟨running', fewer⟩
        refine ⟨running', ?_⟩
        rw [own] at fewer
        rw [List.countP_cons]
        omega

/-! ## The law -/

/-- What becomes of the messages for a connected socket that is let go in a move, with `k` as it is
then, if the device takes what is written. -/
structure Flushed (config : Config) (later : List Move) (m : Move) (earlier : List Move)
    (k : Socket) : Prop where
  /-- nothing is posted later -/
  closed : posted config k.generation (later ++ m :: earlier) =
    posted config k.generation (m :: earlier)
  /-- a user who closes the link posts a close message last -/
  close : (after config earlier).input? m = some (.command .close) →
    posted config k.generation (m :: earlier) = posted config k.generation earlier ++ [.close]
  /-- what has been written and what is queued are all that was posted, and nothing is queued when
  the task has ended; it has ended as soon as it has gone on more often than there were messages -/
  written : ∃ k' ∈ (after config (later ++ m :: earlier)).sockets, ∃ number,
    k'.generation = k.generation ∧ k'.number = some number ∧
    (after config (later ++ m :: earlier)).outlet.written number ++ k'.outbound =
      posted config k.generation (m :: earlier) ∧
    (k'.phase = .ended → k'.outbound = []) ∧
    (k.outbound.length < later.countP (Move.polls k.generation) → k'.phase = .ended)

/-- A socket that is let go in a move is let go by the link, and its task rests. -/
theorem Fares.of_release {s : System} {m : Move} {k' : Socket} {handled : List TransportEvent}
    {arrived : Nat → List Arrival} (fares : Fares s m k k')
    (coherent : Coherent s handled arrived) (member : k ∈ s.sockets) (held : k.released = false)
    (gone : k'.released = true) :
    k'.phase = k.phase ∧ k'.number = k.number ∧ s.exchanged k.generation m = none := by
  cases fares with
  | supplied supplied idle =>
    exact ⟨supplied.phase_eq, supplied.number_eq, coherent.exchanged_eq_none member idle⟩
  | pumped mute pump =>
    have still : k'.released = k.released := by
      generalize s.exchanged k.generation m = x at pump
      cases pump <;> rfl
    cases held.symm.trans (still.symm.trans gone)

/-- **What was posted to a socket before it was let go is written before its task ends.** -/
theorem flushed_of_released {m : Move} {earlier : List Move} {k' : Socket}
    (kept : (after config (later ++ m :: earlier)).shutDown = false)
    (member : k ∈ (after config earlier).sockets)
    (member' : k' ∈ (after config (m :: earlier)).sockets)
    (same : k'.generation = k.generation) (held : k.released = false)
    (gone : k'.released = true) (accepted : k.number.isSome = true)
    (further : ∀ arrival ∈ readings config k.generation earlier, arrival.isEnd = false)
    (taken : refused config k.generation (later ++ m :: earlier) = []) :
    Flushed config later m earlier k' := by
  have kept₁ : (after config (m :: earlier)).shutDown = false := running_of_append kept
  have kept₀ := running_of_cons config earlier kept₁
  have coherent := coherent_of_running config earlier kept₀
  have coherent₁ := coherent_of_running config (m :: earlier) kept₁
  have running : k.phase = .running := by
    refine ((delivering_after config earlier kept₀).outgoing k member).running held accepted ?_
      further
    have first : refused config k.generation ([m] ++ earlier) = [] := refused_of_append taken
    exact refused_of_append first
  obtain ⟨k₁, member₁, generation, fares⟩ :=
    (traffic_after config earlier kept₀ m).fares coherent member
  cases coherent₁.eq_of_generation member' member₁ (generation.trans same.symm)
  obtain ⟨phase, number, idle⟩ := fares.of_release coherent member held gone
  obtain ⟨k'', draining⟩ := draining_after kept member' gone (phase.trans running)
  have unread : readings config k.generation (later ++ m :: earlier) =
      readings config k.generation earlier := by
    rw [← same, draining.readings_eq, same]
    simp only [readings, exchanges, idle, Option.toList_none, List.append_nil]
  have own := draining.generation_eq
  have numbered : k''.number = k.number := draining.number_eq.trans number
  have delivering := delivering_after config (later ++ m :: earlier) kept
  have outgoing := delivering.outgoing k'' draining.member
  refine ⟨draining.posted_eq, fun closes => ?_, ?_⟩
  · rw [same]
    exact congrArg (posted config k.generation earlier ++ ·)
      (coherent.posts_close member held closes)
  · obtain ⟨number', given⟩ := Option.isSome_iff_exists.1 accepted
    refine ⟨k'', draining.member, number', own, numbered.trans given, ?_, outgoing.empty, ?_⟩
    · rw [delivering.written k'' draining.member number' (numbered.trans given),
        ← draining.posted_eq, ← own]
      refine outgoing.written_append (numbered ▸ accepted) ?_ ?_
      · rw [own, same]
        exact taken
      · rw [own, same]
        exact fun arrival read => further arrival (unread ▸ read)
    · intro enough
      refine draining.progress.resolve_right ?_
      rintro ⟨-, count⟩
      omega

/-- **What reaches a device**, before the client is shut down.  At every moment the messages that
the task of a socket has offered are the first of those that were posted to it, and the others are
queued until the task ends.  A socket that has not been connected offers nothing; on any other the
device has been written what was offered, but for the message that it refused.  When a connected
socket is let go before the end of its stream has been read, and nothing is refused, all that was
posted by then is written before the task ends, a close message of the user last. -/
theorem outbound_law (config : Config) (moves : List Move)
    (kept : (after config moves).shutDown = false) :
    (∀ k ∈ (after config moves).sockets,
      offered config k.generation moves <+: posted config k.generation moves ∧
      (k.phase ≠ .ended →
        offered config k.generation moves ++ k.outbound = posted config k.generation moves) ∧
      (k.number = none → offered config k.generation moves = []) ∧
      ∀ number, k.number = some number →
        (after config moves).outlet.written number ++ refused config k.generation moves =
          offered config k.generation moves) ∧
    ∀ later m earlier, moves = later ++ m :: earlier →
      ∀ k ∈ (after config earlier).sockets, ∀ k' ∈ (after config (m :: earlier)).sockets,
        k'.generation = k.generation → k.released = false → k'.released = true →
        k.number.isSome = true →
        (∀ arrival ∈ readings config k.generation earlier, arrival.isEnd = false) →
        refused config k.generation moves = [] → Flushed config later m earlier k' := by
  have delivering := delivering_after config moves kept
  refine ⟨fun k member => ?_, ?_⟩
  · have outgoing := delivering.outgoing k member
    refine ⟨outgoing.prefix_offered, fun live => (outgoing.waiting live).symm, ?_, ?_⟩
    · intro unnumbered
      rw [offered, outgoing.silent unnumbered, List.filterMap_nil]
    · intro number own
      rw [delivering.written k member number own]
      exact outgoing.offered_eq.symm
  · rintro later m earlier rfl k member k' member' same held gone accepted further taken
    exact flushed_of_released kept member member' same held gone accepted further taken

/-- The user sends a message and wants to close the link; the device has hung up by then, but the
task of the socket has not come to that. -/
def parting : List Move :=
  [.hangUp none, .close, .act .command, .send (.request .startStream none), .act .transport,
    .act (.poll 1), .act (.poll 1), .act .command, .connect "ws://device"]

/-- The link lets the socket go, and its task goes on three times. -/
def parted : List Move := List.replicate 3 (.act (.poll 1)) ++ .act .command :: parting

theorem outbound_law_parted :
    (after {} parted).shutDown = false ∧
    (∃ k ∈ (after {} (.act .command :: parting)).sockets, k.outbound.length = 2 ∧
      Flushed {} (List.replicate 3 (.act (.poll 1))) (.act .command) parting k) ∧
    (∃ k ∈ (after {} parted).sockets, k.phase = .ended ∧ k.outbound = [] ∧
      offered {} k.generation parted <+: posted {} k.generation parted) ∧
    ((after {} parted).outlet.written 1).length = 2 := by
  have kept : (after {} parted).shutDown = false := by decide +kernel
  obtain ⟨each, released⟩ := outbound_law {} parted kept
  obtain ⟨k, member, own, held, accepted⟩ : ∃ k ∈ (after {} parting).sockets,
      k.generation = 1 ∧ k.released = false ∧ k.number.isSome = true := by decide +kernel
  obtain ⟨k', member', own', gone, waiting⟩ : ∃ k ∈ (after {} (.act .command :: parting)).sockets,
      k.generation = 1 ∧ k.released = true ∧ k.outbound.length = 2 := by decide +kernel
  have further : ∀ arrival ∈ readings {} k.generation parting, arrival.isEnd = false := by
    rw [own]
    decide +kernel
  have taken : refused {} k.generation parted = [] := by
    rw [own]
    exact List.length_eq_zero_iff.1 (by decide +kernel)
  have flushed := released _ _ _ rfl k member k' member' (own'.trans own.symm) held gone accepted
    further taken
  obtain ⟨k'', member'', -, -, -, -, empty, ends⟩ := flushed.written
  have ended : k''.phase = .ended := ends (by rw [waiting, own']; decide)
  exact ⟨kept, ⟨k', member', waiting, flushed⟩,
    ⟨k'', member'', ended, empty ended, (each k'' member'').1⟩, by decide +kernel⟩

end System
end Lookout
