import Lookout.Proofs.System.Traffic

/-!
# What is posted and what is written

What the link posts to a socket is queued, and the task of the socket offers it to the device, one
message after another.  At every moment what has been offered and what is still queued are together
what has been posted, until the task ends (`Outgoing`).  What is seen to be written carries the
number of the socket, and no two sockets have one number; so it is what the task of that socket has
written (`Delivering`).  Every move keeps both, whoever makes it.

## Main definitions

* `System.posted` — what the link has posted to the socket of a generation.
* `System.exchanges` — what its task has done at the device, and `System.offered`, `System.refused`
  and `System.readings` — the messages and the arrivals among it.
* `Outgoing`, `Numbered`, `Delivering` — the invariants.
* `Fares` — what a move does to one socket.
-/

namespace Lookout
namespace Exchange

/-- The message that is offered to the device, whether it takes it or not. -/
def offered? : Exchange → Option WireMessage
  | .wrote message | .refused message => some message
  | .read _ => none

/-- The message that is written. -/
def wrote? : Exchange → Option WireMessage
  | .wrote message => some message
  | .refused _ | .read _ => none

/-- The message that cannot be written. -/
def refused? : Exchange → Option WireMessage
  | .refused message => some message
  | .wrote _ | .read _ => none

/-- What is read. -/
def read? : Exchange → Option Arrival
  | .read arrival => some arrival
  | .wrote _ | .refused _ => none

end Exchange

namespace System

/-! ## What happens on a run -/

/-- What the link has posted to the socket of a generation, oldest first. -/
def posted (config : Config) (generation : Nat) : List Move → List WireMessage
  | [] => []
  | m :: past => posted config generation past ++ (after config past).posts generation m

/-- What the task of the socket of a generation has done at the device, oldest first. -/
def exchanges (config : Config) (generation : Nat) : List Move → List Exchange
  | [] => []
  | m :: past =>
    exchanges config generation past ++ ((after config past).exchanged generation m).toList

/-- The messages that have been offered to the device, oldest first. -/
def offered (config : Config) (generation : Nat) (moves : List Move) : List WireMessage :=
  (exchanges config generation moves).filterMap Exchange.offered?

/-- The messages that could not be written. -/
def refused (config : Config) (generation : Nat) (moves : List Move) : List WireMessage :=
  (exchanges config generation moves).filterMap Exchange.refused?

/-- What has been read, oldest first. -/
def readings (config : Config) (generation : Nat) (moves : List Move) : List Arrival :=
  (exchanges config generation moves).filterMap Exchange.read?

/-! ## One socket -/

/-- A socket, with what has been posted to it and what its task has done at the device. -/
structure Outgoing (posted : List WireMessage) (record : List Exchange) (k : Socket) : Prop where
  early : k.phase ≠ .running → k.phase ≠ .ended → k.number = none
  connected : k.phase = .running → k.number.isSome = true
  silent : k.number = none → record = []
  waiting : k.phase ≠ .ended → posted = record.filterMap Exchange.offered? ++ k.outbound
  whole : k.phase ≠ .ended → record.filterMap Exchange.refused? = []
  empty : k.phase = .ended → k.outbound = []
  prefix_offered : record.filterMap Exchange.offered? <+: posted
  offered_eq : record.filterMap Exchange.offered? =
    record.filterMap Exchange.wrote? ++ record.filterMap Exchange.refused?
  -- A close message comes last, and nothing is posted to a socket that has been let go.
  close : .close ∈ posted → k.released = true ∧ .close ∉ posted.dropLast
  /-- a connected socket that has ended for no other reason has been let go, and all is offered -/
  done : k.phase = .ended → k.number.isSome = true →
    record.filterMap Exchange.refused? = [] →
    (∀ arrival ∈ record.filterMap Exchange.read?, arrival.isEnd = false) →
    k.released = true ∧ record.filterMap Exchange.offered? = posted

theorem outgoing_freshSocket (generation : Nat) (url : String) :
    Outgoing [] [] (freshSocket generation url) where
  early _ _ := rfl
  connected := nofun
  silent _ := rfl
  waiting _ := rfl
  whole _ := rfl
  empty := nofun
  prefix_offered := List.prefix_rfl
  offered_eq := rfl
  close := nofun
  done := nofun

section
variable {s : System} {k k' : Socket} {posted posts : List WireMessage} {record : List Exchange}

/-- Messages are posted to a socket. -/
theorem Outgoing.supplied (outgoing : Outgoing posted record k)
    (supplied : Supplied posts k k') : Outgoing (posted ++ posts) record k' := by
  have phase := supplied.phase_eq
  have number := supplied.number_eq
  refine ⟨?_, ?_, ?_, ?_, ?_, ?_, ?_, outgoing.offered_eq, ?_, ?_⟩
  · rw [phase, number]
    exact outgoing.early
  · rw [phase, number]
    exact outgoing.connected
  · rw [number]
    exact outgoing.silent
  · intro live
    rw [phase] at live
    rw [outgoing.waiting live, supplied.outbound_eq, if_neg live, List.append_assoc]
  · rw [phase]
    exact outgoing.whole
  · intro ended
    rw [phase] at ended
    rw [supplied.outbound_eq, if_pos ended, outgoing.empty ended, List.append_nil]
  · exact outgoing.prefix_offered.trans (List.prefix_append _ _)
  · intro close
    rcases List.mem_append.1 close with before | now
    · obtain ⟨gone, last⟩ := outgoing.close before
      obtain ⟨none, still⟩ := supplied.released gone
      rw [none, List.append_nil]
      exact ⟨still, last⟩
    · obtain ⟨alone, gone⟩ := supplied.close now
      refine ⟨gone, ?_⟩
      rw [alone, List.dropLast_concat]
      intro before
      obtain ⟨none, -⟩ := supplied.released (outgoing.close before).1
      cases alone.symm.trans none
  · intro ended numbered taken goes
    rw [phase] at ended
    rw [number] at numbered
    obtain ⟨gone, all⟩ := outgoing.done ended numbered taken goes
    obtain ⟨none, still⟩ := supplied.released gone
    rw [none, List.append_nil]
    exact ⟨still, all⟩

/-- A connected socket of which nothing is queued has offered all that was posted. -/
theorem Outgoing.offered_all (outgoing : Outgoing posted record k) (running : k.phase = .running)
    (empty : k.outbound = []) : record.filterMap Exchange.offered? = posted := by
  have waiting := outgoing.waiting (by simp [running])
  rw [empty, List.append_nil] at waiting
  exact waiting.symm

/-- A connected socket that has not been let go is still running, if nothing went wrong. -/
theorem Outgoing.running (outgoing : Outgoing posted record k) (held : k.released = false)
    (accepted : k.number.isSome = true) (taken : record.filterMap Exchange.refused? = [])
    (further : ∀ arrival ∈ record.filterMap Exchange.read?, arrival.isEnd = false) :
    k.phase = .running := by
  by_contra other
  by_cases ended : k.phase = .ended
  · have gone := (outgoing.done ended accepted taken further).1
    cases held.symm.trans gone
  · rw [outgoing.early other ended] at accepted
    cases accepted

/-- What has been written on a connected socket and what is queued for it are all that was posted,
if nothing went wrong. -/
theorem Outgoing.written_append (outgoing : Outgoing posted record k)
    (accepted : k.number.isSome = true)
    (taken : record.filterMap Exchange.refused? = [])
    (further : ∀ arrival ∈ record.filterMap Exchange.read?, arrival.isEnd = false) :
    record.filterMap Exchange.wrote? ++ k.outbound = posted := by
  have wrote := outgoing.offered_eq
  rw [taken, List.append_nil] at wrote
  rw [← wrote]
  by_cases ended : k.phase = .ended
  · rw [outgoing.empty ended, List.append_nil]
    exact (outgoing.done ended accepted taken further).2
  · exact (outgoing.waiting ended).symm

/-- Nothing is queued behind a close message. -/
theorem Outgoing.rest_eq_nil (outgoing : Outgoing posted record k) (live : k.phase ≠ .ended)
    {rest : List WireMessage} (next : k.outbound = .close :: rest) : rest = [] := by
  have waiting := outgoing.waiting live
  rw [next] at waiting
  cases rest with
  | nil => rfl
  | cons message rest =>
    have close : .close ∈ posted := by simp [waiting]
    refine absurd ?_ (outgoing.close close).2
    rw [waiting, List.dropLast_append_cons, List.dropLast_cons_cons]
    exact List.mem_append_right _ (.head _)

/-- A running socket has a number. -/
theorem Outgoing.numbered (outgoing : Outgoing posted record k) (running : k.phase = .running) :
    k.number ≠ none :=
  Option.isSome_iff_ne_none.1 (outgoing.connected running)

/-- The task of a connected socket goes on. -/
theorem Outgoing.goes_on (outgoing : Outgoing posted record k) (running : k.phase = .running)
    {x : List Exchange} {outbound : List WireMessage} {inbound : List Arrival}
    (taken : x.filterMap Exchange.refused? = [])
    (offered : x.filterMap Exchange.offered? = x.filterMap Exchange.wrote?)
    (next : k.outbound = x.filterMap Exchange.offered? ++ outbound) :
    Outgoing posted (record ++ x) { k with outbound, inbound } := by
  have live : k.phase ≠ .ended := by simp [running]
  have waiting := outgoing.waiting live
  have whole := outgoing.whole live
  have offered_eq := outgoing.offered_eq
  rw [next, ← List.append_assoc, ← List.filterMap_append] at waiting
  rw [whole, List.append_nil] at offered_eq
  exact { outgoing with
    silent := fun unnumbered => absurd unnumbered (outgoing.numbered running)
    waiting := fun _ => waiting
    whole := fun _ => by rw [List.filterMap_append, whole, taken, List.append_nil]
    empty := fun ended => absurd ended live
    prefix_offered := ⟨outbound, waiting.symm⟩
    offered_eq := by
      simp only [List.filterMap_append, whole, taken, offered, offered_eq, List.append_nil]
    done := fun ended => absurd ended live }

/-- The task of a connected socket ends. -/
theorem Outgoing.retired (outgoing : Outgoing posted record k) (running : k.phase = .running)
    {x : List Exchange}
    (prefix_offered : (record ++ x).filterMap Exchange.offered? <+: posted)
    (offered_eq : x.filterMap Exchange.offered? =
      x.filterMap Exchange.wrote? ++ x.filterMap Exchange.refused?)
    (done : x.filterMap Exchange.refused? = [] →
      (∀ arrival ∈ x.filterMap Exchange.read?, arrival.isEnd = false) →
      k.released = true ∧ (record ++ x).filterMap Exchange.offered? = posted) :
    Outgoing posted (record ++ x) (retired k) := by
  have whole := outgoing.whole (by simp [running])
  have before := outgoing.offered_eq
  rw [whole, List.append_nil] at before
  exact { outgoing with
    early := fun _ other => absurd rfl other
    connected := nofun
    silent := fun unnumbered => absurd unnumbered (outgoing.numbered running)
    waiting := fun other => absurd rfl other
    whole := fun other => absurd rfl other
    empty := fun _ => rfl
    prefix_offered := prefix_offered
    offered_eq := by
      simp only [List.filterMap_append, whole, before, offered_eq, List.nil_append,
        List.append_assoc]
    done := fun _ _ taken further => by
      rw [List.filterMap_append, whole, List.nil_append] at taken
      refine done taken fun arrival read => further arrival ?_
      rw [List.filterMap_append]
      exact List.mem_append_right _ read }

/-- A socket that is not connected yet comes a step further. -/
theorem Outgoing.proceeds (outgoing : Outgoing posted record k) (early : k.phase ≠ .running)
    (live : k.phase ≠ .ended) {phase : Phase} {number : Option Nat} (goes_on : phase ≠ .ended)
    (numbered : number.isSome = true ↔ phase = .running) :
    Outgoing posted record { k with phase, number } := by
  have silent := outgoing.silent (outgoing.early early live)
  exact { outgoing with
    early := fun other _ => Option.not_isSome_iff_eq_none.1 (mt numbered.1 other)
    connected := numbered.2
    silent := fun _ => silent
    waiting := fun _ => outgoing.waiting live
    whole := fun _ => outgoing.whole live
    empty := fun ended => absurd ended goes_on
    done := fun ended => absurd ended goes_on }

/-- **The task of a socket takes a step.** -/
theorem Outgoing.pumped (outgoing : Outgoing posted record k) {x : Option Exchange}
    {outlet : Outlet} (pump : Pump s k x k' outlet) :
    Outgoing posted (record ++ x.toList) k' := by
  -- What a connected socket offers is the next of what waits.
  have offers (running : k.phase = .running) {message : WireMessage} {rest : List WireMessage}
      (next : k.outbound = message :: rest) {x : Exchange} (offer : x.offered? = some message) :
      posted = (record ++ [x]).filterMap Exchange.offered? ++ rest := by
    rw [outgoing.waiting (by simp [running]), next, List.filterMap_append]
    simp [offer]
  cases pump with
  | dialed early live =>
    rw [Option.toList_none, List.append_nil]
    exact outgoing.proceeds early live nofun (by simp [outgoing.early early live])
  | accepted early live =>
    rw [Option.toList_none, List.append_nil]
    exact outgoing.proceeds early live nofun (by simp)
  | failed early live =>
    have unnumbered := outgoing.early early live
    rw [Option.toList_none, List.append_nil]
    exact { outgoing with
      early := fun _ other => absurd rfl other
      connected := nofun
      waiting := fun other => absurd rfl other
      whole := fun other => absurd rfl other
      empty := fun _ => rfl
      done := fun _ numbered => by simp [System.retired, unnumbered] at numbered }
  | wrote running next further =>
    rw [next]
    exact outgoing.goes_on running rfl rfl next
  | read running further => exact outgoing.goes_on running rfl rfl rfl
  | closed running next =>
    have all := offers running next (x := .wrote .close) rfl
    rw [outgoing.rest_eq_nil (by simp [running]) next, List.append_nil] at all
    refine outgoing.retired running (all ▸ List.prefix_rfl) rfl fun _ _ => ⟨?_, all.symm⟩
    refine (outgoing.close ?_).1
    simp [all, Exchange.offered?]
  | @refused message rest running next =>
    have all := offers running next (x := .refused message) rfl
    exact outgoing.retired running ⟨rest, all.symm⟩ rfl nofun
  | ended running last =>
    refine outgoing.retired running ?_ rfl fun _ further => ?_
    · simpa [List.filterMap_cons, Exchange.offered?] using outgoing.prefix_offered
    · cases last.symm.trans (further _ (.head _))
  | left running empty gone =>
    have all := outgoing.offered_all running empty
    refine outgoing.retired running ?_ rfl fun _ _ => ⟨gone, ?_⟩
    · simp [all]
    · simp [all]

end

/-! ## All sockets -/

/-- What a step of the task of a socket adds to what has been written on a number. -/
theorem Pump.written {s : System} {k k' : Socket} {x : Option Exchange} {outlet : Outlet}
    (pump : Pump s k x k' outlet) (number : Nat) :
    outlet.written number = s.outlet.written number ++
      if k.number = some number then (x.bind Exchange.wrote?).toList else [] := by
  have wrote (message : WireMessage) : (s.outlet.write k.number message).written number =
      s.outlet.written number ++ if k.number = some number then [message] else [] := by
    cases numbered : k.number with
    | none => simp [Outlet.write, Outlet.written]
    | some own => simpa using Outlet.written_write s.outlet own number message
  cases pump with
  | wrote | closed => exact wrote _
  | accepted => simp [Outlet.accept, Outlet.written]
  | dialed | failed | refused | read | ended | left => simp [Exchange.wrote?]

/-- A socket keeps its number, or it is accepted and gets a new one. -/
theorem Pump.number {s : System} {k k' : Socket} {x : Option Exchange} {outlet : Outlet}
    (pump : Pump s k x k' outlet) :
    k'.number = k.number ∧ outlet.accepted = s.outlet.accepted ∨
      k'.number = some outlet.accepted ∧ outlet.accepted = s.outlet.accepted + 1 ∧
        (k.phase ≠ .running ∧ k.phase ≠ .ended) ∧ x = none := by
  cases pump with
  | accepted early live => exact .inr ⟨rfl, rfl, ⟨early, live⟩, rfl⟩
  | dialed | failed | wrote | closed | refused | read | ended | left => exact .inl ⟨rfl, rfl⟩

/-- Sockets are accepted one after another, and nothing is written on a number before. -/
structure Numbered (s : System) : Prop where
  bounded : ∀ k ∈ s.sockets, ∀ number, k.number = some number → number ≤ s.outlet.accepted
  distinct : ∀ k ∈ s.sockets, ∀ other ∈ s.sockets, ∀ number, k.number = some number →
    other.number = some number → other.generation = k.generation
  unwritten : ∀ number, s.outlet.accepted < number → s.outlet.written number = []

section
variable {s s' : System} {m : Move} {handled : List TransportEvent} {arrived : Nat → List Arrival}

/-- When one socket changes, each socket is that one or as it was. -/
theorem Coherent.of_mem_updateSocket (coherent : Coherent s handled arrived) {k k' : Socket}
    {f : Socket → Socket} (member : k ∈ s.sockets)
    (member' : k' ∈ (s.updateSocket k.generation f).sockets) :
    k' = f k ∨ k' ∈ s.sockets ∧ k'.generation ≠ k.generation := by
  obtain ⟨other, old, rfl⟩ := List.mem_map.1 member'
  by_cases own : other.generation = k.generation
  · rw [coherent.eq_of_generation member old own, if_pos (beq_self_eq_true _)]
    exact .inl rfl
  · rw [if_neg (by simpa using own)]
    exact .inr ⟨old, own⟩

theorem Pump.generation_eq {k k' : Socket} {x : Option Exchange} {outlet : Outlet}
    (pump : Pump s k x k' outlet) : k'.generation = k.generation := by
  cases pump <;> rfl

/-- No number is given. -/
theorem Numbered.of_old (numbered : Numbered s)
    (old : ∀ k' ∈ s'.sockets, ∀ number, k'.number = some number →
      ∃ k ∈ s.sockets, k.generation = k'.generation ∧ k.number = some number)
    (accepted : s'.outlet.accepted = s.outlet.accepted)
    (unwritten : ∀ number, s.outlet.accepted < number → s'.outlet.written number = []) :
    Numbered s' where
  bounded k' member' number own := by
    obtain ⟨k, member, -, own⟩ := old k' member' number own
    rw [accepted]
    exact numbered.bounded k member number own
  distinct k' member' other' mem' number own same := by
    obtain ⟨k, member, generation, own⟩ := old k' member' number own
    obtain ⟨other, mem, generation', same⟩ := old other' mem' number same
    rw [← generation, ← generation']
    exact numbered.distinct k member other mem number own same
  unwritten number above := unwritten number (accepted ▸ above)

/-- The next number is given to one socket. -/
theorem Numbered.accepted (numbered : Numbered s) {new : Socket}
    (own : new.number = some s'.outlet.accepted)
    (old : ∀ k' ∈ s'.sockets, k' = new ∨ k' ∈ s.sockets)
    (more : s'.outlet.accepted = s.outlet.accepted + 1)
    (same : ∀ number, s'.outlet.written number = s.outlet.written number) : Numbered s' where
  bounded k' member' number own' := by
    rcases old k' member' with rfl | before
    · exact (Option.some.inj (own.symm.trans own')).ge
    · have := numbered.bounded k' before number own'
      omega
  distinct k' member' other' mem' number own₁ own₂ := by
    have above {k : Socket} (before : k ∈ s.sockets) (number_eq : k.number = some number)
        (new_eq : new.number = some number) : False := by
      have := numbered.bounded k before number number_eq
      have := Option.some.inj (own.symm.trans new_eq)
      omega
    rcases old k' member' with rfl | before <;> rcases old other' mem' with rfl | before'
    · rfl
    · exact (above before' own₂ own₁).elim
    · exact (above before own₁ own₂).elim
    · exact numbered.distinct k' before other' before' number own₁ own₂
  unwritten number high := by
    rw [same]
    exact numbered.unwritten number (by omega)

theorem Numbered.traffic (numbered : Numbered s) (coherent : Coherent s handled arrived)
    (traffic : Traffic s m s') (early : ∀ k ∈ s.sockets, k.phase ≠ .running → k.phase ≠ .ended →
      k.number = none) : Numbered s' := by
  cases traffic with
  | @supplied f each born idle sockets_eq outlet_eq =>
    refine numbered.of_old ?_ (by rw [outlet_eq]) (by rw [outlet_eq]; exact numbered.unwritten)
    rw [sockets_eq]
    intro k' member' number own
    obtain ⟨k, member, rfl⟩ := List.mem_map.1 member'
    exact ⟨k, member, (each k member).generation_eq.symm, (each k member).number_eq ▸ own⟩
  | dialed mute unborn idle sockets_eq outlet_eq =>
    refine numbered.of_old ?_ (by rw [outlet_eq]) (by rw [outlet_eq]; exact numbered.unwritten)
    rw [sockets_eq]
    intro k member number own
    rcases List.mem_append.1 member with old | fresh
    · exact ⟨k, old, rfl, own⟩
    · cases List.mem_singleton.1 fresh
      cases own
  | @pumped k x f member mute exchanged apart pump sockets_eq =>
    have old (k' : Socket) (member' : k' ∈ s'.sockets) : k' = f k ∨ k' ∈ s.sockets :=
      (coherent.of_mem_updateSocket member (sockets_eq ▸ member')).imp_right (·.1)
    rcases pump.number with ⟨kept, same⟩ | ⟨fresh, more, unconnected, rfl⟩
    · refine numbered.of_old ?_ same ?_
      · intro k' member' number own
        rcases old k' member' with rfl | before
        · exact ⟨k, member, pump.generation_eq.symm, kept ▸ own⟩
        · exact ⟨k', before, rfl, own⟩
      · intro number above
        rw [pump.written, numbered.unwritten number above, if_neg, List.append_nil]
        intro own
        have := numbered.bounded k member number own
        omega
    · refine numbered.accepted fresh old more fun number => ?_
      rw [pump.written, early k member unconnected.1 unconnected.2]
      exact List.append_nil _

/-! ## One socket in a move -/

/-- What a move does to one socket. -/
inductive Fares (s : System) (m : Move) (k k' : Socket) : Prop where
  /-- messages are posted, or nothing happens; if the task goes on it has nothing to do -/
  | supplied (supplied : Supplied (s.posts k.generation m) k k')
      (idle : m.polls k.generation = true → s.canPoll k = false)
  | pumped {outlet : Outlet} (mute : s.posts k.generation m = [])
      (pump : Pump s k (s.exchanged k.generation m) k' outlet)

theorem Traffic.fares (traffic : Traffic s m s') (coherent : Coherent s handled arrived)
    {k : Socket} (member : k ∈ s.sockets) :
    ∃ k' ∈ s'.sockets, k'.generation = k.generation ∧ Fares s m k k' := by
  cases traffic with
  | @supplied f each born idle sockets_eq outlet_eq =>
    refine ⟨f k, sockets_eq ▸ List.mem_map_of_mem member, (each k member).generation_eq, ?_⟩
    exact .supplied (each k member) (idle k member)
  | dialed mute unborn idle sockets_eq outlet_eq =>
    refine ⟨k, sockets_eq ▸ List.mem_append_left _ member, rfl, .supplied ?_ ?_⟩
    · rw [mute]
      exact .refl k
    · rw [idle]
      exact nofun
  | @pumped other x f mem mute exchanged apart pump sockets_eq =>
    by_cases own : k.generation = other.generation
    · cases coherent.eq_of_generation mem member own
      have own_exchange := exchanged k.generation
      rw [if_pos rfl] at own_exchange
      refine ⟨f k, ?_, pump.generation_eq, .pumped (mute _) (own_exchange ▸ pump)⟩
      rw [sockets_eq]
      exact List.mem_map.2 ⟨k, member, if_pos (beq_self_eq_true _)⟩
    · refine ⟨k, ?_, rfl, .supplied ?_ fun polled => absurd (apart _ polled) own⟩
      · rw [sockets_eq]
        exact List.mem_map.2 ⟨k, member, if_neg (by simpa using own)⟩
      · rw [mute]
        exact .refl k

theorem Coherent.exchanged_eq_none (coherent : Coherent s handled arrived) {k : Socket}
    (member : k ∈ s.sockets) (idle : m.polls k.generation = true → s.canPoll k = false) :
    s.exchanged k.generation m = none := by
  rw [coherent.exchanged_eq member]
  split
  · next polled => exact exchange?_eq_none (idle polled)
  · rfl

/-- **What a socket has offered stays in step with what is posted to it**, whatever the move. -/
theorem Outgoing.fares {k k' : Socket} {posted : List WireMessage} {record : List Exchange}
    (outgoing : Outgoing posted record k) (coherent : Coherent s handled arrived)
    (member : k ∈ s.sockets) (fares : Fares s m k k') :
    Outgoing (posted ++ s.posts k.generation m)
      (record ++ (s.exchanged k.generation m).toList) k' := by
  cases fares with
  | supplied supplied idle =>
    rw [coherent.exchanged_eq_none member idle, Option.toList_none, List.append_nil]
    exact outgoing.supplied supplied
  | pumped mute pump =>
    rw [mute, List.append_nil]
    exact outgoing.pumped pump

end

/-! ## Runs -/

/-- All sockets with what has been posted to them, and all that has been written. -/
structure Delivering (s : System) (posted : Nat → List WireMessage)
    (record : Nat → List Exchange) : Prop where
  numbered : Numbered s
  outgoing : ∀ k ∈ s.sockets, Outgoing (posted k.generation) (record k.generation) k
  written : ∀ k ∈ s.sockets, ∀ number, k.number = some number →
    s.outlet.written number = (record k.generation).filterMap Exchange.wrote?
  -- Nothing is posted to a socket that has not been started.
  unborn : ∀ generation, generation ∉ s.sockets.map (·.generation) →
    posted generation = [] ∧ record generation = []

section
variable {s s' : System} {m : Move} {handled : List TransportEvent} {arrived : Nat → List Arrival}
  {posted : Nat → List WireMessage} {record : Nat → List Exchange}

/-- A socket that was not there before has just been dialed. -/
theorem Traffic.eq_freshSocket (traffic : Traffic s m s')
    (coherent : Coherent s handled arrived) {k' : Socket} (member' : k' ∈ s'.sockets)
    (new : k'.generation ∉ s.sockets.map (·.generation)) :
    ∃ generation url, k' = freshSocket generation url := by
  cases traffic with
  | @supplied f each born idle sockets_eq outlet_eq =>
    rw [sockets_eq] at member'
    obtain ⟨k, member, rfl⟩ := List.mem_map.1 member'
    rw [(each k member).generation_eq] at new
    exact absurd (List.mem_map_of_mem member) new
  | @dialed generation url mute unborn idle sockets_eq outlet_eq =>
    rw [sockets_eq, List.mem_append, List.mem_singleton] at member'
    exact ⟨generation, url, member'.resolve_left fun old => new (List.mem_map_of_mem old)⟩
  | @pumped k x f member mute exchanged apart pump sockets_eq =>
    rcases coherent.of_mem_updateSocket member (sockets_eq ▸ member') with rfl | ⟨old, -⟩
    · rw [pump.generation_eq] at new
      exact absurd (List.mem_map_of_mem member) new
    · exact absurd (List.mem_map_of_mem old) new

/-- Nothing is posted to a socket that has not been started, and it does nothing. -/
theorem Traffic.unborn (traffic : Traffic s m s') {generation : Nat}
    (new : generation ∉ s.sockets.map (·.generation)) :
    s.posts generation m = [] ∧ s.exchanged generation m = none := by
  constructor
  · cases traffic with
    | supplied each born =>
      by_contra posted
      exact new (born generation posted)
    | dialed mute => exact mute generation
    | pumped member mute => exact mute generation
  · have absent : s.socket? generation = none := by
      rw [socket?, List.find?_eq_none]
      intro k member own
      exact new (List.mem_map.2 ⟨k, member, eq_of_beq own⟩)
    simp [exchanged, absent]

/-- What has been written on the number of a socket is what its task has written. -/
theorem Delivering.written_traffic (delivering : Delivering s posted record)
    (coherent : Coherent s handled arrived) (traffic : Traffic s m s') {k' : Socket}
    (member' : k' ∈ s'.sockets) {number : Nat} (own : k'.number = some number) :
    s'.outlet.written number =
      (record k'.generation ++ (s.exchanged k'.generation m).toList).filterMap
        Exchange.wrote? := by
  -- A socket that does nothing in the move keeps what it has written.
  have still {k : Socket} (member : k ∈ s.sockets) (numbered : k.number = some number)
      (quiet : s.exchanged k.generation m = none)
      (same : s'.outlet.written number = s.outlet.written number) :
      s'.outlet.written number =
        (record k.generation ++ (s.exchanged k.generation m).toList).filterMap
          Exchange.wrote? := by
    rw [same, quiet, Option.toList_none, List.append_nil]
    exact delivering.written k member number numbered
  cases traffic with
  | @supplied f each born idle sockets_eq outlet_eq =>
    rw [sockets_eq] at member'
    obtain ⟨k, member, rfl⟩ := List.mem_map.1 member'
    rw [(each k member).number_eq] at own
    rw [(each k member).generation_eq]
    exact still member own (coherent.exchanged_eq_none member (idle k member)) (by rw [outlet_eq])
  | dialed mute unborn idle sockets_eq outlet_eq =>
    rw [sockets_eq, List.mem_append, List.mem_singleton] at member'
    rcases member' with member | rfl
    · refine still member own (coherent.exchanged_eq_none member ?_) (by rw [outlet_eq])
      rw [idle]
      exact nofun
    · cases own
  | @pumped k x f member mute exchanged apart pump sockets_eq =>
    rcases coherent.of_mem_updateSocket member (sockets_eq ▸ member') with rfl | ⟨old, other⟩
    · rw [pump.generation_eq, exchanged, if_pos rfl, List.filterMap_append, pump.written]
      rcases pump.number with ⟨kept, -⟩ | ⟨fresh, more, ⟨early, live⟩, rfl⟩
      · rw [kept] at own
        rw [if_pos own, delivering.written k member number own]
        congr 1
        cases x with
        | none => rfl
        | some x => cases x <;> rfl
      · have outgoing := delivering.outgoing k member
        have unnumbered := outgoing.early early live
        rw [fresh] at own
        cases own
        rw [outgoing.silent unnumbered, delivering.numbered.unwritten _ (by omega)]
        simp [unnumbered]
    · refine still old own ?_ ?_
      · rw [exchanged, if_neg other]
      · rw [pump.written, if_neg, List.append_nil]
        intro same
        exact other (delivering.numbered.distinct k member k' old number same own)

/-- **Every move keeps posting, offering and writing in step.** -/
theorem Delivering.traffic (delivering : Delivering s posted record)
    (coherent : Coherent s handled arrived) {handled' : List TransportEvent}
    {arrived' : Nat → List Arrival} (coherent' : Coherent s' handled' arrived')
    (traffic : Traffic s m s') :
    Delivering s' (fun generation => posted generation ++ s.posts generation m)
      fun generation => record generation ++ (s.exchanged generation m).toList where
  numbered := delivering.numbered.traffic coherent traffic fun k member =>
    (delivering.outgoing k member).early
  outgoing k' member' := by
    by_cases born : k'.generation ∈ s.sockets.map (·.generation)
    · obtain ⟨k, member, same⟩ := List.mem_map.1 born
      obtain ⟨k'', member'', generation, fares⟩ := traffic.fares coherent member
      cases coherent'.eq_of_generation member' member'' (generation.trans same)
      rw [← same]
      exact (delivering.outgoing k member).fares coherent member fares
    · obtain ⟨generation, url, rfl⟩ := traffic.eq_freshSocket coherent member' born
      obtain ⟨unposted, silent⟩ := delivering.unborn _ born
      obtain ⟨none, idle⟩ := traffic.unborn born
      rw [unposted, silent, none, idle]
      exact outgoing_freshSocket generation url
  written k' member' number own := delivering.written_traffic coherent traffic member' own
  unborn generation new := by
    have before : generation ∉ s.sockets.map (·.generation) := by
      intro born
      obtain ⟨k, member, rfl⟩ := List.mem_map.1 born
      obtain ⟨k', member', same, -⟩ := traffic.fares coherent member
      exact new (same ▸ List.mem_map_of_mem member')
    obtain ⟨unposted, silent⟩ := delivering.unborn generation before
    obtain ⟨none, idle⟩ := traffic.unborn before
    rw [unposted, silent, none, idle]
    exact ⟨rfl, rfl⟩

end

variable (config : Config) (moves : List Move)

theorem delivering_after (kept : (after config moves).shutDown = false) :
    Delivering (after config moves) (posted config · moves) (exchanges config · moves) := by
  induction moves with
  | nil =>
    exact ⟨⟨nofun, nofun, fun _ _ => rfl⟩, nofun, nofun, fun _ _ => ⟨rfl, rfl⟩⟩
  | cons m past ih =>
    have before := running_of_cons config past kept
    exact (ih before).traffic (coherent_of_running config past before)
      (coherent_of_running config (m :: past) kept) (traffic_after config past before m)

end System
end Lookout
