import Lookout.Link.Lifecycle

/-!
# The record of a life

A record holds what has been done to a lifecycle and what it has answered, latest first.  Operations
come in any order, and the generations they are given need not be ones that were begun.  A lifecycle
remembers a few fields; what it answers is a law about its record all the same (`lifecycle_law`),
because each field is a reading of the record (`Recalls`).

## Main definitions

* `Lifecycle.Operation`, `Lifecycle.perform`, `Lifecycle.after`.
* `Record` and its readings: `begun`, `live`, `termination`, `hasOpened`, `granted`, `verdict`.
-/

namespace Lookout

/-- An operation on a lifecycle with the answer to it. -/
inductive Entry where
  | beginConnect (generation : Option Nat)
  | opened (generation : Nat) (present : Bool)
  | closed (generation : Nat) (outcome : CloseOutcome)
  | serverClosing (changed : Bool)
  | superseded
  | userClose (held : Bool)
deriving Repr, DecidableEq

/-- What has been done to a lifecycle, latest first. -/
abbrev Record := List Entry

namespace Record

/-! ## Reading a record -/

/-- The generations that were begun, latest first. -/
def begun : Record → List Nat
  | [] => []
  | .beginConnect (some generation) :: past => generation :: begun past
  | _ :: past => begun past

/-- The generation that was begun last, unless it has ended. -/
def live : Record → Option Nat
  | [] => none
  | .beginConnect (some generation) :: _ => some generation
  | .closed _ .stale :: past => live past
  | .closed _ _ :: _ => none
  | _ :: past => live past

/-- The termination in force: the latest one since an attempt was last begun. -/
def termination : Record → Option Termination
  | [] => none
  | .beginConnect (some _) :: _ => none
  | .superseded :: _ => some .superseded
  | .userClose _ :: _ => some .userClosed
  | .closed _ (.linkLost _) :: _ => some .linkLost
  | _ :: past => termination past

/-- Whether an attempt has succeeded since the last takeover, if there was one. -/
def hasOpened : Record → Bool
  | [] => false
  | .opened _ true :: _ => true
  | .superseded :: _ => false
  | _ :: past => hasOpened past

/-- How many further attempts were granted since an attempt last succeeded, or was last begun on a
link that had ended. -/
def granted : Record → Nat
  | [] => 0
  | .opened _ true :: _ => 0
  | .beginConnect (some _) :: past => if (termination past).isSome then 0 else granted past
  | .closed _ (.reconnect _ _) :: past => granted past + 1
  | _ :: past => granted past

/-- What the end of the live attempt is answered with. -/
def verdict (policy : ReconnectPolicy) (r : Record) : CloseOutcome :=
  match r.termination with
  | some termination => .stopped termination
  | none =>
    if r.hasOpened then
      if r.granted < policy.maxAttempts then .reconnect (r.granted + 1) policy.interval
      else .linkLost policy.maxAttempts
    else .idle

end Record

namespace Lifecycle

/-! ## Operations -/

/-- What can be done to a lifecycle. -/
inductive Operation where
  | beginConnect
  | opened (generation : Nat)
  | closed (generation : Nat)
  | serverClosing
  | superseded
  | userClose
deriving Repr, DecidableEq

/-- Does an operation, and says what has been answered. -/
def perform (l : Lifecycle) : Operation → Lifecycle × Entry
  | .beginConnect => l.beginConnect.map id .beginConnect
  | .opened generation => (l.opened generation).map id (.opened generation)
  | .closed generation => (l.closed generation).map id (.closed generation)
  | .serverClosing => l.serverClosing.map id .serverClosing
  | .superseded => (l.superseded, .superseded)
  | .userClose => l.userClose.map id .userClose

/-- The lifecycle after some operations, latest first. -/
def after (policy : ReconnectPolicy) : List Operation → Lifecycle
  | [] => new policy
  | operation :: past => ((after policy past).perform operation).1

/-- The record of some operations, latest first. -/
def record (policy : ReconnectPolicy) : List Operation → Record
  | [] => []
  | operation :: past => ((after policy past).perform operation).2 :: record policy past

/-! ## What a lifecycle remembers -/

/-- A lifecycle remembers its record. -/
structure Recalls (policy : ReconnectPolicy) (l : Lifecycle) (r : Record) : Prop where
  policy_eq : l.policy = policy
  generation_eq : l.generation = r.begun.length
  le_generation : ∀ generation ∈ r.begun, generation ≤ l.generation
  live_eq : r.live = if l.state = .disconnected then none else some l.generation
  termination_eq : r.termination = l.termination
  hasOpened_eq : r.hasOpened = l.autoReconnect
  granted_eq : r.granted = l.attempts
  attempts_le : l.attempts ≤ policy.maxAttempts

variable {policy : ReconnectPolicy} {l : Lifecycle} {r : Record}

theorem recalls_new (policy : ReconnectPolicy) : Recalls policy (new policy) [] := by
  constructor <;> simp [new, Record.begun, Record.live, Record.termination, Record.hasOpened,
    Record.granted]

theorem Recalls.live_iff (recalls : Recalls policy l r) (generation : Nat) :
    r.live = some generation ↔ l.isCurrent generation = true := by
  rw [recalls.live_eq]
  by_cases down : l.state = .disconnected
  · simp [isCurrent, down]
  · simpa [isCurrent, down] using eq_comm

theorem Recalls.beginConnect (recalls : Recalls policy l r) :
    Recalls policy (l.perform .beginConnect).1 ((l.perform .beginConnect).2 :: r) := by
  by_cases down : l.state = .disconnected
  · simp only [perform, Lifecycle.beginConnect, down, if_true, Prod.map_apply, id]
    refine ⟨recalls.policy_eq, ?_, ?_, by simp [Record.live], rfl, recalls.hasOpened_eq, ?_, ?_⟩
    · simp [Record.begun, recalls.generation_eq]
    · intro generation member
      rcases List.mem_cons.1 member with rfl | old
      · exact Nat.le_refl _
      · exact Nat.le_succ_of_le (recalls.le_generation generation old)
    · rw [Record.granted, recalls.termination_eq, recalls.granted_eq]
      rfl
    · have := recalls.attempts_le
      simp only
      split <;> omega
  · simp only [perform, Lifecycle.beginConnect, down, if_false, Prod.map_apply, id]
    exact { recalls with }

theorem Recalls.opened (recalls : Recalls policy l r) (generation : Nat) :
    Recalls policy (l.perform (.opened generation)).1
      ((l.perform (.opened generation)).2 :: r) := by
  by_cases present : l.state = .connecting ∧ generation = l.generation
  · have live := recalls.live_eq
    simp only [present.1] at live
    simp only [perform, Lifecycle.opened, present, and_self, if_true, Prod.map_apply, id]
    exact { recalls with
      live_eq := live
      hasOpened_eq := rfl
      granted_eq := rfl
      attempts_le := Nat.zero_le _ }
  · simp only [perform, Lifecycle.opened, present, if_false, Prod.map_apply, id]
    exact { recalls with }

theorem Recalls.serverClosing (recalls : Recalls policy l r) :
    Recalls policy (l.perform .serverClosing).1 ((l.perform .serverClosing).2 :: r) := by
  by_cases up : l.state = .opened
  · have live := recalls.live_eq
    simp only [up] at live
    simp only [perform, Lifecycle.serverClosing, up, if_true, Prod.map_apply, id]
    exact { recalls with live_eq := live }
  · simp only [perform, Lifecycle.serverClosing, up, if_false, Prod.map_apply, id]
    exact { recalls with }

/-! ## The end of an attempt -/

theorem Recalls.verdict_eq (recalls : Recalls policy l r) {generation : Nat}
    (current : l.isCurrent generation = true) : (l.closed generation).2 = r.verdict policy := by
  simp only [Lifecycle.closed, current, if_true, Record.verdict, recalls.termination_eq,
    recalls.hasOpened_eq, recalls.granted_eq, recalls.policy_eq]
  cases l.termination with
  | some termination => rfl
  | none =>
    cases l.autoReconnect with
    | false => rfl
    | true =>
      by_cases left : l.attempts < policy.maxAttempts
      · simp [left]
      · -- The attempts never exceed the limit, so the link is lost after exactly that many.
        have spent : l.attempts = policy.maxAttempts :=
          Nat.le_antisymm recalls.attempts_le (Nat.le_of_not_lt left)
        simp [spent]

theorem closed_stale {generation : Nat} (stale : l.isCurrent generation = false) :
    l.closed generation = (l, .stale) := by
  simp [Lifecycle.closed, stale]

theorem Recalls.closed (recalls : Recalls policy l r) (generation : Nat) :
    Recalls policy (l.perform (.closed generation)).1
      ((l.perform (.closed generation)).2 :: r) := by
  cases current : l.isCurrent generation with
  | false =>
    simp only [perform, closed_stale current, Prod.map_apply, id]
    exact { recalls with }
  | true =>
    simp only [perform, Lifecycle.closed, current, if_true]
    cases ended : l.termination with
    | some termination =>
      exact { recalls with
        live_eq := rfl
        termination_eq := recalls.termination_eq.trans ended }
    | none =>
      have free : r.termination = none := recalls.termination_eq.trans ended
      cases eligible : l.autoReconnect with
      | false =>
        exact { recalls with
          live_eq := rfl
          termination_eq := free
          hasOpened_eq := recalls.hasOpened_eq.trans eligible }
      | true =>
        by_cases left : l.attempts < l.policy.maxAttempts
        · simp only [left]
          exact { recalls with
            live_eq := rfl
            termination_eq := free
            granted_eq := by simp [Record.granted, recalls.granted_eq]
            attempts_le := by rw [← recalls.policy_eq]; exact left
            hasOpened_eq := recalls.hasOpened_eq.trans eligible }
        · simp only [left]
          exact { recalls with
            live_eq := rfl
            termination_eq := rfl
            hasOpened_eq := recalls.hasOpened_eq.trans eligible }

/-- **A lifecycle goes on remembering its record**, whatever is done to it. -/
theorem Recalls.perform (recalls : Recalls policy l r) (operation : Operation) :
    Recalls policy (l.perform operation).1 ((l.perform operation).2 :: r) := by
  cases operation with
  | beginConnect => exact recalls.beginConnect
  | opened generation => exact recalls.opened generation
  | closed generation => exact recalls.closed generation
  | serverClosing => exact recalls.serverClosing
  | superseded => exact { recalls with termination_eq := rfl, hasOpened_eq := rfl }
  | userClose => exact { recalls with termination_eq := rfl }

theorem recalls_after (policy : ReconnectPolicy) (operations : List Operation) :
    Recalls policy (after policy operations) (record policy operations) := by
  induction operations with
  | nil => exact recalls_new policy
  | cons operation past ih => exact ih.perform operation

/-- **What a lifecycle answers is a law about its record.**  The attempts that count are the ones
granted since the last reset, and never more than the policy allows.  An attempt that is begun gets
a larger number than all before it, which are as many as were begun.  The end of the live attempt is
answered with the termination in force if there is one; it is idle if no attempt has succeeded since
the last takeover; and otherwise a further attempt is granted, up to as many as the policy allows,
after which the link is lost.  The end of any other attempt is stale and changes nothing. -/
theorem lifecycle_law (policy : ReconnectPolicy) (operations : List Operation) :
    let l := after policy operations
    let r := record policy operations
    l.attempts ≤ policy.maxAttempts ∧
    l.attempts = r.granted ∧
    (∀ generation, l.beginConnect.2 = some generation →
      generation = r.begun.length + 1 ∧ ∀ earlier ∈ r.begun, earlier < generation) ∧
    (∀ generation, r.live = some generation → (l.closed generation).2 = r.verdict policy) ∧
    (∀ generation, r.live ≠ some generation → l.closed generation = (l, .stale)) := by
  intro l r
  have recalls : Recalls policy l r := recalls_after policy operations
  refine ⟨recalls.attempts_le, recalls.granted_eq.symm, ?_, ?_, ?_⟩
  · intro generation begun
    have next : generation = l.generation + 1 := by
      by_cases down : l.state = .disconnected <;> simp [Lifecycle.beginConnect, down] at begun
      exact begun.symm
    refine ⟨by rw [next, recalls.generation_eq], fun earlier member => ?_⟩
    rw [next]
    exact Nat.lt_succ_of_le (recalls.le_generation earlier member)
  · intro generation live
    exact recalls.verdict_eq ((recalls.live_iff generation).1 live)
  · intro generation other
    rw [Ne, recalls.live_iff, Bool.not_eq_true] at other
    exact closed_stale other

end Lifecycle

end Lookout
