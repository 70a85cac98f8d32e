import Lookout.Proofs.Link.Record

/-!
# Restarting a link that has ended

An order to connect a link that has ended starts it afresh: it forgets the attempts and the reason
of the end.  It does not forget whether the link has opened since another console last took over,
and this tells what becomes of the first failure.  So two lives that agree in it go on alike,
whatever has ended them, and two that do not go on alike up to a failure before the link opens: one
is tried again and the other is not (`restart_law`).

The lives may have begun different numbers of attempts.  Then the second is given the same
operations with its own numbers of the generations (`Operation.shift`).

## Main definitions

* `resume`, `answers` — what further operations do to a lifecycle.
* `shift`, `RunsAlike` — two lifecycles that differ in the numbers of their generations.
* `IsOver` — a link that has been open and has ended.
-/

namespace Lookout

/-- The number of a generation on a lifecycle whose count is some way ahead.  A number below zero
becomes zero, which no attempt has. -/
def renumber (ahead : Int) (generation : Nat) : Nat := (generation + ahead).toNat

theorem renumber_inj {ahead : Int} {current : Nat} (positive : 0 < current + ahead)
    (generation : Nat) : renumber ahead generation = renumber ahead current ↔
      generation = current := by
  unfold renumber
  omega

theorem renumber_succ {ahead : Int} {current : Nat} (positive : 0 < current + ahead) :
    renumber ahead (current + 1) = renumber ahead current + 1 := by
  unfold renumber
  omega

/-- The same answer with other numbers of the generations. -/
def Entry.shift (ahead : Int) : Entry → Entry
  | .beginConnect generation => .beginConnect (generation.map (renumber ahead))
  | .opened generation present => .opened (renumber ahead generation) present
  | .closed generation outcome => .closed (renumber ahead generation) outcome
  | entry => entry

/-- If an attempt has ever succeeded and no other console has taken over, the link has opened since
then. -/
theorem Record.hasOpened_of_mem {r : Record} {generation : Nat}
    (opened : .opened generation true ∈ r) (kept : .superseded ∉ r) : r.hasOpened = true := by
  induction r with
  | nil => cases opened
  | cons entry past ih =>
    have earlier : .superseded ∉ past := fun member => kept (.tail _ member)
    rcases List.mem_cons.1 opened with rfl | before
    · rfl
    · cases entry with
      | superseded => exact absurd List.mem_cons_self kept
      | opened other present =>
        cases present with
        | true => rfl
        | false => exact ih before earlier
      | beginConnect | closed | serverClosing | userClose => exact ih before earlier

namespace Lifecycle

/-- The same operation with other numbers of the generations. -/
def Operation.shift (ahead : Int) : Operation → Operation
  | .opened generation => .opened (renumber ahead generation)
  | .closed generation => .closed (renumber ahead generation)
  | operation => operation

/-- The same lifecycle with other numbers of the generations. -/
def shift (ahead : Int) (l : Lifecycle) : Lifecycle :=
  { l with generation := renumber ahead l.generation }

/-- A lifecycle after some further operations, latest first. -/
def resume (l : Lifecycle) : List Operation → Lifecycle
  | [] => l
  | operation :: past => ((l.resume past).perform operation).1

/-- What a lifecycle answers to some further operations, latest first. -/
def answers (l : Lifecycle) : List Operation → Record
  | [] => []
  | operation :: past => ((l.resume past).perform operation).2 :: l.answers past

variable {policy : ReconnectPolicy} {l m : Lifecycle} {ahead : Int}

theorem resume_append (l : Lifecycle) (later operations : List Operation) :
    l.resume (later ++ operations) = (l.resume operations).resume later := by
  induction later with
  | nil => rfl
  | cons operation past ih => rw [List.cons_append, resume, resume, ih]

theorem answers_append (l : Lifecycle) (later operations : List Operation) :
    l.answers (later ++ operations) =
      (l.resume operations).answers later ++ l.answers operations := by
  induction later with
  | nil => rfl
  | cons operation past ih =>
    rw [List.cons_append, answers, answers, ih, resume_append, List.cons_append]

/-! ## Other numbers of the generations -/

theorem isCurrent_shift (positive : 0 < l.generation + ahead) (generation : Nat) :
    (l.shift ahead).isCurrent (renumber ahead generation) = l.isCurrent generation := by
  have same : (renumber ahead generation == renumber ahead l.generation) =
      (generation == l.generation) := by
    rw [Bool.eq_iff_iff, beq_iff_eq, beq_iff_eq, renumber_inj positive]
  rw [isCurrent, isCurrent, shift, same]

/-- **An operation does the same** with other numbers of the generations. -/
theorem perform_shift (positive : 0 < l.generation + ahead) (operation : Operation) :
    (l.shift ahead).perform (operation.shift ahead) =
      ((l.perform operation).1.shift ahead, (l.perform operation).2.shift ahead) := by
  cases operation with
  | beginConnect =>
    by_cases down : l.state = .disconnected
    · simp only [perform, Operation.shift, Entry.shift, shift, beginConnect, down, if_true,
        Prod.map_apply, id, Option.map_some, renumber_succ positive]
      rfl
    · simp [perform, Operation.shift, Entry.shift, shift, beginConnect, down]
  | opened generation =>
    by_cases present : l.state = .connecting ∧ generation = l.generation
    · simp [perform, Operation.shift, Entry.shift, shift, opened, present]
    · simp [perform, Operation.shift, Entry.shift, shift, opened, present, renumber_inj positive]
  | closed generation =>
    cases current : l.isCurrent generation with
    | false =>
      have stale := (isCurrent_shift positive generation).trans current
      simp [perform, Operation.shift, Entry.shift, closed_stale, current, stale]
    | true =>
      have stays := (isCurrent_shift positive generation).trans current
      simp only [perform, Operation.shift, closed, current, stays, if_true]
      cases ended : l.termination with
      | some termination => simp [shift, Entry.shift, ended]
      | none =>
        cases eligible : l.autoReconnect with
        | false => simp [shift, Entry.shift, ended, eligible]
        | true =>
          by_cases left : l.attempts < l.policy.maxAttempts <;>
            simp [shift, Entry.shift, ended, eligible, left]
  | serverClosing =>
    by_cases up : l.state = .opened <;>
      simp [perform, Operation.shift, Entry.shift, shift, serverClosing, up]
  | superseded => rfl
  | userClose => rfl

/-- No operation changes the policy, and none takes the count back. -/
theorem perform_frame (l : Lifecycle) (operation : Operation) :
    (l.perform operation).1.policy = l.policy ∧
      l.generation ≤ (l.perform operation).1.generation := by
  cases operation with
  | beginConnect => by_cases down : l.state = .disconnected <;> simp [perform, beginConnect, down]
  | opened generation => simp only [perform, opened]; split <;> exact ⟨rfl, Nat.le_refl _⟩
  | closed generation =>
    simp only [perform, closed]
    repeat' split
    all_goals exact ⟨rfl, Nat.le_refl _⟩
  | serverClosing => simp only [perform, serverClosing]; split <;> exact ⟨rfl, Nat.le_refl _⟩
  | superseded | userClose => exact ⟨rfl, Nat.le_refl _⟩

theorem resume_frame (l : Lifecycle) (operations : List Operation) :
    (l.resume operations).policy = l.policy ∧
      l.generation ≤ (l.resume operations).generation := by
  induction operations with
  | nil => exact ⟨rfl, Nat.le_refl _⟩
  | cons operation past ih =>
    have step := perform_frame (l.resume past) operation
    exact ⟨step.1.trans ih.1, Nat.le_trans ih.2 step.2⟩

/-- **A run does the same** with other numbers of the generations. -/
theorem run_shift (positive : 0 < l.generation + ahead) (operations : List Operation) :
    (l.shift ahead).resume (operations.map (.shift ahead)) = (l.resume operations).shift ahead ∧
      (l.shift ahead).answers (operations.map (.shift ahead)) =
        (l.answers operations).map (.shift ahead) := by
  induction operations with
  | nil => exact ⟨rfl, rfl⟩
  | cons operation past ih =>
    have counted : 0 < (l.resume past).generation + ahead := by
      have := (resume_frame l past).2
      omega
    have step := perform_shift counted operation
    refine ⟨?_, ?_⟩
    · rw [List.map_cons, resume, ih.1, step, resume]
    · rw [List.map_cons, answers, ih.1, ih.2, step, answers, List.map_cons]

/-! ## A link that is not tried again -/

/-- The same lifecycle if a loss is not answered by another attempt. -/
def lapsed (l : Lifecycle) : Lifecycle := { l with autoReconnect := false }

/-- How an operation treats a lifecycle without attempts and the one that has lapsed: alike, so that
they still differ or no longer do, or it is the failure of an attempt on a link that has not
ended. -/
inductive Treatment (l : Lifecycle) : Operation → Prop where
  | keeps {operation : Operation}
      (same : l.lapsed.perform operation =
        ((l.perform operation).1.lapsed, (l.perform operation).2))
      (eligible : (l.perform operation).1.autoReconnect = true)
      (fresh : (l.perform operation).1.attempts = 0)
      (unopened : ∀ generation, (l.perform operation).2 ≠ .opened generation true) :
      Treatment l operation
  | levels {operation : Operation} (same : l.lapsed.perform operation = l.perform operation) :
      Treatment l operation
  | parts {generation : Nat} (current : l.isCurrent generation = true)
      (free : l.termination = none) : Treatment l (.closed generation)

theorem treatment (eligible : l.autoReconnect = true) (fresh : l.attempts = 0)
    (operation : Operation) : Treatment l operation := by
  cases operation with
  | beginConnect =>
    by_cases down : l.state = .disconnected
    · refine .keeps ?_ ?_ ?_ ?_ <;>
        simp [perform, beginConnect, lapsed, isTerminated, down, eligible, fresh]
    · refine .keeps ?_ ?_ ?_ ?_ <;> simp [perform, beginConnect, lapsed, down, eligible, fresh]
  | opened generation =>
    by_cases present : l.state = .connecting ∧ generation = l.generation
    · exact .levels (by simp [perform, opened, lapsed, present])
    · refine .keeps ?_ ?_ ?_ ?_ <;> simp [perform, opened, lapsed, present, eligible, fresh]
  | closed generation =>
    cases current : l.isCurrent generation with
    | false =>
      have stale : l.lapsed.isCurrent generation = false := current
      refine .keeps ?_ ?_ ?_ ?_ <;>
        simp [perform, closed_stale current, closed_stale stale, eligible, fresh]
    | true =>
      have stays : l.lapsed.isCurrent generation = true := current
      cases ended : l.termination with
      | none => exact .parts current ended
      | some termination =>
        have ended' : l.lapsed.termination = some termination := ended
        refine .keeps ?_ ?_ ?_ ?_ <;>
          simp only [perform, closed, current, stays, if_true, ended, ended'] <;>
          simp [lapsed, eligible, fresh]
  | serverClosing =>
    by_cases up : l.state = .opened <;> refine .keeps ?_ ?_ ?_ ?_ <;>
      simp [perform, serverClosing, lapsed, up, eligible, fresh]
  | superseded => exact .levels rfl
  | userClose => exact .keeps rfl eligible fresh (by simp [perform, userClose])

/-- After some operations a lifecycle differs from one that had lapsed in this only. -/
structure Behind (l : Lifecycle) (operations : List Operation) : Prop where
  answers_eq : l.lapsed.answers operations = l.answers operations
  resume_eq : l.lapsed.resume operations = (l.resume operations).lapsed
  eligible : (l.resume operations).autoReconnect = true
  fresh : (l.resume operations).attempts = 0
  unopened : ∀ generation, .opened generation true ∉ l.answers operations

/-- How a lifecycle and the one that had lapsed have done side by side: they are the same by now, or
they still differ, or an attempt has failed while they did. -/
inductive Tandem (l : Lifecycle) (operations : List Operation) : Prop where
  | level (answers_eq : l.lapsed.answers operations = l.answers operations)
      (resume_eq : l.lapsed.resume operations = l.resume operations)
  | behind (behind : Behind l operations)
  | parted (generation : Nat) (before : List Operation)
      (suffix : .closed generation :: before <:+ operations) (behind : Behind l before)
      (current : (l.resume before).isCurrent generation = true)
      (free : (l.resume before).termination = none)

theorem Behind.tandem {operations : List Operation} (behind : Behind l operations)
    (operation : Operation) : Tandem l (operation :: operations) := by
  cases treatment behind.eligible behind.fresh operation with
  | keeps same eligible fresh unopened =>
    refine .behind ⟨?_, ?_, eligible, fresh, fun generation member => ?_⟩
    · rw [answers, answers, behind.resume_eq, same, behind.answers_eq]
    · rw [resume, resume, behind.resume_eq, same]
    · rcases List.mem_cons.1 member with now | before
      · exact unopened generation now.symm
      · exact behind.unopened generation before
  | levels same =>
    refine .level ?_ ?_
    · rw [answers, answers, behind.resume_eq, same, behind.answers_eq]
    · rw [resume, resume, behind.resume_eq, same]
  | parts current free => exact .parted _ operations (List.suffix_refl _) behind current free

/-- **Two lifecycles of which one has lapsed** do alike until an attempt fails, and for good if the
link has opened before. -/
theorem tandem (eligible : l.autoReconnect = true) (fresh : l.attempts = 0)
    (operations : List Operation) : Tandem l operations := by
  induction operations with
  | nil => exact .behind ⟨rfl, rfl, eligible, fresh, by simp [answers]⟩
  | cons operation past ih =>
    cases ih with
    | level answers_eq resume_eq =>
      exact .level (by rw [answers, answers, resume_eq, answers_eq])
        (by rw [resume, resume, resume_eq])
    | behind behind => exact behind.tandem operation
    | parted generation before suffix behind current free =>
      exact .parted generation before (suffix.trans (List.suffix_cons _ _)) behind current free

/-! ## Lives that are over -/

/-- A link that has been open at some time and has ended, so that only an order starts it again. -/
structure IsOver (policy : ReconnectPolicy) (operations : List Operation) : Prop where
  opened : ∃ generation, .opened generation true ∈ record policy operations
  down : (after policy operations).state = .disconnected
  terminated : (after policy operations).isTerminated = true

/-- Two lifecycles do the same for some operations, latest first, if the count of the second is some
way ahead of that of the first. -/
structure RunsAlike (ahead : Int) (l m : Lifecycle) (operations : List Operation) : Prop where
  answers_eq :
    m.answers (operations.map (.shift ahead)) = (l.answers operations).map (.shift ahead)
  state_eq : (m.resume (operations.map (.shift ahead))).state = (l.resume operations).state
  attempts_eq :
    (m.resume (operations.map (.shift ahead))).attempts = (l.resume operations).attempts
  termination_eq :
    (m.resume (operations.map (.shift ahead))).termination = (l.resume operations).termination

/-- After some operations, latest first, the failure of an attempt parts two lifecycles: so far they
have done the same and no attempt has succeeded; the first is tried again and the second is not. -/
structure PartsAt (ahead : Int) (l m : Lifecycle) (before : List Operation) (generation : Nat) :
    Prop where
  alike : RunsAlike ahead l m before
  unopened : ∀ generation, .opened generation true ∉ l.answers before
  free : (l.resume before).termination = none
  tried : ((l.resume before).closed generation).2 =
    if 0 < l.policy.maxAttempts then .reconnect 1 l.policy.interval else .linkLost 0
  idle : ((m.resume (before.map (.shift ahead))).closed (renumber ahead generation)).2 = .idle

/-- A link that has been lost is one that was tried again, whatever has been done to it since. -/
theorem eligible_perform (kept : l.termination = some .linkLost → l.autoReconnect = true)
    (operation : Operation) (lost : (l.perform operation).1.termination = some .linkLost) :
    (l.perform operation).1.autoReconnect = true := by
  cases operation with
  | beginConnect =>
    by_cases down : l.state = .disconnected <;> simp [perform, beginConnect, down] at lost ⊢
    exact kept lost
  | opened generation =>
    by_cases present : l.state = .connecting ∧ generation = l.generation <;>
      simp [perform, opened, present] at lost ⊢
    exact kept lost
  | closed generation =>
    cases current : l.isCurrent generation with
    | false =>
      simp only [perform, closed_stale current, Prod.map_apply, id] at lost ⊢
      exact kept lost
    | true =>
      simp only [perform, closed, current, if_true] at lost ⊢
      cases ended : l.termination with
      | some termination =>
        simp only [ended, Prod.map_apply, id] at lost ⊢
        exact kept (ended.trans lost)
      | none =>
        cases eligible : l.autoReconnect with
        | true => by_cases left : l.attempts < l.policy.maxAttempts <;> simp [left]
        | false => simp [ended, eligible] at lost
  | serverClosing =>
    by_cases up : l.state = .opened <;> simp [perform, serverClosing, up] at lost ⊢ <;>
      exact kept lost
  | superseded | userClose => cases lost

theorem eligible_of_linkLost (policy : ReconnectPolicy) (operations : List Operation)
    (lost : (after policy operations).termination = some .linkLost) :
    (after policy operations).autoReconnect = true := by
  induction operations with
  | nil => cases lost
  | cons operation past ih => exact eligible_perform ih operation lost

theorem runsAlike_shift (positive : 0 < l.generation + ahead) (operations : List Operation) :
    RunsAlike ahead l (l.shift ahead) operations := by
  obtain ⟨resume_eq, answers_eq⟩ := run_shift positive operations
  constructor
  · exact answers_eq
  all_goals rw [resume_eq]; rfl

theorem runsAlike_lapsed (positive : 0 < l.generation + ahead) {operations : List Operation}
    (answers_eq : l.lapsed.answers operations = l.answers operations)
    (resume_eq : l.lapsed.resume operations = l.resume operations ∨
      l.lapsed.resume operations = (l.resume operations).lapsed) :
    RunsAlike ahead l (l.lapsed.shift ahead) operations := by
  obtain ⟨answered, state_eq, attempts_eq, termination_eq⟩ :=
    runsAlike_shift (l := l.lapsed) positive operations
  rw [answers_eq] at answered
  rcases resume_eq with level | lapsed
  · rw [level] at state_eq attempts_eq termination_eq
    exact ⟨answered, state_eq, attempts_eq, termination_eq⟩
  · rw [lapsed] at state_eq attempts_eq termination_eq
    exact ⟨answered, state_eq, attempts_eq, termination_eq⟩

/-! ## Two restarts -/

/-- A link that has ended, when it is started again. -/
def restarted (l : Lifecycle) : Lifecycle :=
  { l with
    state := .connecting
    generation := l.generation + 1
    attempts := 0
    termination := none }

theorem outcome_of_eligible {generation : Nat} (current : l.isCurrent generation = true)
    (free : l.termination = none) (eligible : l.autoReconnect = true) (fresh : l.attempts = 0) :
    (l.closed generation).2 =
      if 0 < l.policy.maxAttempts then .reconnect 1 l.policy.interval else .linkLost 0 := by
  by_cases tries : 0 < l.policy.maxAttempts <;>
    simp [closed, current, free, eligible, fresh, tries]

theorem outcome_of_lapsed {generation : Nat} (current : l.isCurrent generation = true)
    (free : l.termination = none) (lapsed : l.autoReconnect = false) :
    (l.closed generation).2 = .idle := by
  simp [closed, current, free, lapsed]

theorem map_append_beginConnect (ahead : Int) (later : List Operation) :
    (later ++ [Operation.beginConnect]).map (Operation.shift ahead) =
      later.map (Operation.shift ahead) ++ [.beginConnect] :=
  List.map_append

theorem beginConnect_of_ended (down : l.state = .disconnected) (ended : l.isTerminated = true) :
    l.resume [.beginConnect] = l.restarted ∧
      l.answers [.beginConnect] = [.beginConnect (some (l.generation + 1))] := by
  simp [resume, answers, perform, beginConnect, restarted, down, ended]

/-- Two lifecycles with one policy that have ended, the count of the second some way ahead of that
of the first. -/
structure BothOver (ahead : Int) (l m : Lifecycle) : Prop where
  policy_eq : m.policy = l.policy
  generation_eq : (m.generation : Int) = l.generation + ahead
  down : l.state = .disconnected ∧ m.state = .disconnected
  ended : l.isTerminated = true ∧ m.isTerminated = true

namespace BothOver

variable (both : BothOver ahead l m)

include both

theorem positive : 0 < l.restarted.generation + ahead := by
  have := both.generation_eq
  simp only [restarted]
  omega

theorem renumber_eq : m.generation + 1 = renumber ahead (l.generation + 1) := by
  have := both.generation_eq
  simp only [renumber]
  omega

/-- The second is the first with other numbers once they have been started, if they agree on whether
a loss is answered by another attempt. -/
theorem restarted_eq (agree : m.autoReconnect = l.autoReconnect) :
    m.restarted = l.restarted.shift ahead := by
  simp [restarted, shift, agree, both.policy_eq, both.renumber_eq]

theorem restarted_eq_lapsed (lapsed : m.autoReconnect = false) :
    m.restarted = l.restarted.lapsed.shift ahead := by
  simp [restarted, shift, Lifecycle.lapsed, lapsed, both.policy_eq, both.renumber_eq]

/-- What they do alike once they have been started, they do alike. -/
theorem runsAlike {later : List Operation}
    (alike : RunsAlike ahead l.restarted m.restarted later) :
    RunsAlike ahead l m (later ++ [.beginConnect]) := by
  obtain ⟨starts, first⟩ := beginConnect_of_ended both.down.1 both.ended.1
  obtain ⟨starts', first'⟩ := beginConnect_of_ended both.down.2 both.ended.2
  constructor
  · rw [map_append_beginConnect, answers_append, answers_append, List.map_append, starts, starts',
      first, first', alike.answers_eq, both.renumber_eq]
    rfl
  all_goals rw [map_append_beginConnect, resume_append, resume_append, starts, starts']
  · exact alike.state_eq
  · exact alike.attempts_eq
  · exact alike.termination_eq

/-- A failure parts them if it finds the second behind. -/
theorem partsAt {before : List Operation} {generation : Nat}
    (lapsed : m.autoReconnect = false) (behind : Behind l.restarted before)
    (current : (l.restarted.resume before).isCurrent generation = true)
    (free : (l.restarted.resume before).termination = none) :
    PartsAt ahead l m (before ++ [.beginConnect]) generation := by
  obtain ⟨starts, first⟩ := beginConnect_of_ended both.down.1 both.ended.1
  obtain ⟨starts', -⟩ := beginConnect_of_ended both.down.2 both.ended.2
  have level := both.restarted_eq_lapsed lapsed
  have alike := runsAlike_lapsed both.positive behind.answers_eq (.inr behind.resume_eq)
  rw [← level] at alike
  refine ⟨both.runsAlike alike, fun other => ?_, ?_, ?_, ?_⟩
  · rw [answers_append, starts, first]
    simpa using behind.unopened other
  · rw [resume_append, starts, free]
  · have policy_eq : (l.restarted.resume before).policy = l.policy := (resume_frame _ before).1
    rw [resume_append, starts, ← policy_eq]
    exact outcome_of_eligible current free behind.eligible behind.fresh
  · have counted : 0 < (l.restarted.resume before).lapsed.generation + ahead := by
      have := both.positive
      have := (resume_frame l.restarted before).2
      simp only [Lifecycle.lapsed]
      omega
    have arrives := (run_shift (l := l.restarted.lapsed) both.positive before).1
    rw [← level, behind.resume_eq] at arrives
    rw [map_append_beginConnect, resume_append, starts', arrives]
    exact outcome_of_lapsed ((isCurrent_shift counted generation).trans current) free rfl

end BothOver

/-- **A restart depends on how the link ended in one respect only**: whether it has opened since
another console last took over, which is so if none has and if the link was lost.  Two lives that
agree in it go on alike for any operations after the restart.  If they do not agree, they do alike
as well, unless an attempt fails before one has succeeded, on a link that has not ended: up to there
they do alike, and then the first is tried again, with its full number of attempts, and the second
is not. -/
theorem restart_law {policy : ReconnectPolicy} {first second : List Operation}
    (ended : IsOver policy first) (ended' : IsOver policy second) :
    let l := after policy first
    let m := after policy second
    let ahead : Int := m.generation - l.generation
    (l.termination = some .linkLost ∨ .superseded ∉ record policy first →
      (record policy first).hasOpened = true) ∧
    ((record policy first).hasOpened = (record policy second).hasOpened →
      ∀ later, RunsAlike ahead l m (later ++ [.beginConnect])) ∧
    ((record policy first).hasOpened = true → (record policy second).hasOpened = false →
      ∀ later, RunsAlike ahead l m (later ++ [.beginConnect]) ∨
        ∃ generation before, .closed generation :: before <:+ later ∧
          PartsAt ahead l m (before ++ [.beginConnect]) generation) := by
  intro l m ahead
  have recalls : Recalls policy l (record policy first) := recalls_after policy first
  have recalls' : Recalls policy m (record policy second) := recalls_after policy second
  have both : BothOver ahead l m :=
    { policy_eq := recalls'.policy_eq.trans recalls.policy_eq.symm
      generation_eq := by omega
      down := ⟨ended.down, ended'.down⟩
      ended := ⟨ended.terminated, ended'.terminated⟩ }
  rw [recalls.hasOpened_eq, recalls'.hasOpened_eq]
  refine ⟨fun kept => ?_, fun agree later => ?_, fun eligible lapsed later => ?_⟩
  · rcases kept with lost | kept
    · exact eligible_of_linkLost policy first lost
    · obtain ⟨generation, opened⟩ := ended.opened
      exact recalls.hasOpened_eq.symm.trans (Record.hasOpened_of_mem opened kept)
  · have alike := runsAlike_shift both.positive later
    rw [← both.restarted_eq agree.symm] at alike
    exact both.runsAlike alike
  · have lapse : RunsAlike ahead l.restarted (l.restarted.lapsed.shift ahead) later →
        RunsAlike ahead l m (later ++ [.beginConnect]) := by
      rw [← both.restarted_eq_lapsed lapsed]
      exact both.runsAlike
    cases tandem (l := l.restarted) eligible rfl later with
    | level answers_eq resume_eq =>
      exact .inl (lapse (runsAlike_lapsed both.positive answers_eq (.inl resume_eq)))
    | behind behind =>
      exact .inl (lapse (runsAlike_lapsed both.positive behind.answers_eq
        (.inr behind.resume_eq)))
    | parted generation before suffix behind current free =>
      exact .inr ⟨generation, before, suffix, both.partsAt lapsed behind current free⟩

/-- A link that has opened in its first attempt and is then closed by the user. -/
def leftByUser : List Operation := [.closed 1, .userClose, .opened 1, .beginConnect]

/-- A link that is tried again after its first attempt and opens, until another console takes
over. -/
def takenOver : List Operation :=
  [.closed 2, .superseded, .opened 2, .beginConnect, .closed 1, .opened 1, .beginConnect]

/-- The attempt after the restart fails on both: the link that the user had closed is tried again,
the other is not. -/
theorem restart_law_failure :
    IsOver ⟨3000, 3⟩ leftByUser ∧ IsOver ⟨3000, 3⟩ takenOver ∧
      ∃ generation before, .closed generation :: before <:+ [.closed 2] ∧
        PartsAt 1 (after ⟨3000, 3⟩ leftByUser) (after ⟨3000, 3⟩ takenOver)
          (before ++ [.beginConnect]) generation := by
  have ended : IsOver ⟨3000, 3⟩ leftByUser := ⟨⟨1, by decide⟩, by decide, by decide⟩
  have ended' : IsOver ⟨3000, 3⟩ takenOver := ⟨⟨2, by decide⟩, by decide, by decide⟩
  refine ⟨ended, ended', ?_⟩
  refine ((restart_law ended ended').2.2 (by decide) (by decide) [.closed 2]).resolve_left ?_
  exact fun alike => absurd alike.answers_eq (by decide)

/-- So the end of a link makes a difference to what comes after the restart. -/
theorem restart_depends_on_end : ¬ ∀ (policy : ReconnectPolicy) (first second : List Operation),
    IsOver policy first → IsOver policy second → ∀ later,
      RunsAlike ((after policy second).generation - (after policy first).generation)
        (after policy first) (after policy second) (later ++ [.beginConnect]) := by
  intro same
  have alike := same ⟨3000, 3⟩ leftByUser takenOver ⟨⟨1, by decide⟩, by decide, by decide⟩
    ⟨⟨2, by decide⟩, by decide, by decide⟩ [.closed 2]
  exact absurd alike.answers_eq (by decide)

end Lifecycle
end Lookout
