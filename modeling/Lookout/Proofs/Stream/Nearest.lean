import Lookout.Proofs.Stream.Scan
import Lookout.Stream.Basic

/-!
# The nearest result, and the first of several

The pass over a queue looks at two entries only, the first one that is not earlier than the target
and the one in front of it.  When items arrive in the order of their times, no other entry is nearer
to the target than the one that is taken out, and nothing is taken out only if nothing is near
(`nearest_law`).

Of several entries with one time the first to arrive is taken out, as long as they are not earlier
than the target.  Of those that are earlier, the pass remembers only the last (`arrival_law`,
`second_twin_shown`).
-/

namespace Lookout

open Timed (time)

variable {α : Type} [Timed α]

/-! ## The nearest -/

section
variable {items : List α} {first last other : α}

/-- The last of what is in the order of time is the latest. -/
theorem le_of_getLast? (ordered : items.Pairwise fun a b => time a ≤ time b)
    (newest : items.getLast? = some last) (member : other ∈ items) : time other ≤ time last := by
  obtain ⟨front, rfl⟩ := List.getLast?_eq_some_iff.1 newest
  rcases List.mem_append.1 member with old | new
  · exact (List.pairwise_append.1 ordered).2.2 other old last (.head _)
  · rw [List.mem_singleton.1 new]

/-- And the first is the earliest. -/
theorem le_of_mem_cons (ordered : (first :: items).Pairwise fun a b => time a ≤ time b)
    (member : other ∈ first :: items) : time first ≤ time other := by
  rcases List.mem_cons.1 member with rfl | behind
  · exact Nat.le_refl _
  · exact (List.pairwise_cons.1 ordered).1 other behind

end

namespace Pick

variable {window target : Nat} {entries left : List α} {item : α}

/-- **Nothing is nearer than what is taken out**, when items arrive in the order of their times. -/
theorem nearest (pick : Pick window target entries (some item) left)
    (ordered : entries.Pairwise fun a b => time a ≤ time b) :
    ∀ other ∈ entries, Nat.dist (time item) target ≤ Nat.dist (time other) target := by
  intro other member
  cases pick with
  | newest earlier =>
    have order : time other ≤ time item := le_of_getLast? ordered List.getLast?_concat member
    have past : time item < target := earlier item (List.mem_append_right _ (.head _))
    rw [Nat.dist_eq_sub_of_le (by omega), Nat.dist_eq_sub_of_le (by omega)]
    omega
  | @ahead before later _ earlier due nearer near =>
    obtain ⟨sorted, behind, -⟩ := List.pairwise_append.1 ordered
    rw [Nat.dist_eq_sub_of_le_right due]
    rcases List.mem_append.1 member with front | rest
    · -- All in front is at least as far away as the last of it.
      obtain ⟨previous, last⟩ := Option.isSome_iff_exists.1
        (List.getLast?_isSome.2 (List.ne_nil_of_mem front))
      have order : time other ≤ time previous := le_of_getLast? sorted last front
      have := nearer previous last
      have past : time other < target := earlier other front
      rw [Nat.dist_eq_sub_of_le (by omega)]
      omega
    · have order : time item ≤ time other := le_of_mem_cons behind rest
      rw [Nat.dist_eq_sub_of_le_right (by omega)]
      omega
  | @behind front later _ next earlier due nearer near =>
    rw [List.append_cons] at ordered member
    obtain ⟨sorted, behind, -⟩ := List.pairwise_append.1 ordered
    have past : time item < target := earlier item (List.mem_append_right _ (.head _))
    rw [Nat.dist_eq_sub_of_le (by omega)]
    rcases List.mem_append.1 member with before | rest
    · have order : time other ≤ time item := le_of_getLast? sorted List.getLast?_concat before
      rw [Nat.dist_eq_sub_of_le (by omega)]
      omega
    · have order : time next ≤ time other := le_of_mem_cons behind rest
      rw [Nat.dist_eq_sub_of_le_right (by omega)]
      omega

/-- Nothing is taken out only if nothing waits, or if something is later than the target and all is
far away. -/
theorem far (pick : Pick window target entries none left)
    (ordered : entries.Pairwise fun a b => time a ≤ time b) :
    entries = [] ∨ (∃ item ∈ entries, target < time item) ∧
      ∀ item ∈ entries, window < Nat.dist (time item) target := by
  cases pick with
  | empty => exact .inl rfl
  | @missed before later next earlier due far farther =>
    obtain ⟨sorted, behind, -⟩ := List.pairwise_append.1 ordered
    refine .inr ⟨⟨next, by simp, by omega⟩, ?_⟩
    intro item member
    rcases List.mem_append.1 member with front | rest
    · obtain ⟨previous, last⟩ := Option.isSome_iff_exists.1
        (List.getLast?_isSome.2 (List.ne_nil_of_mem front))
      have order : time item ≤ time previous := le_of_getLast? sorted last front
      have := farther previous last
      rw [Nat.dist_eq_sub_of_le (by omega)]
      omega
    · have order : time next ≤ time item := le_of_mem_cons behind rest
      rw [Nat.dist_eq_sub_of_le_right (by omega)]
      omega

end Pick

namespace MatchQueue

variable (q : MatchQueue α) (target : Nat)

/-- **The nearest is shown.**  When what waits came in the order of its times, nothing that waits is
nearer to the target than what is taken out, whatever the window; and nothing is taken out if and
only if nothing waits, or something is later than the target and all is more than a window away. -/
theorem nearest_law (ordered : q.entries.Pairwise fun a b => time a ≤ time b) :
    (∀ item, (q.align target).2 = some item →
      ∀ other ∈ q.entries, Nat.dist (time item) target ≤ Nat.dist (time other) target) ∧
    ((q.align target).2 = none ↔
      q.entries = [] ∨ (∃ item ∈ q.entries, target < time item) ∧
        ∀ item ∈ q.entries, q.window < Nat.dist (time item) target) := by
  have pick := pick_align q target
  refine ⟨?_, ?_, ?_⟩
  · intro item answered
    rw [answered] at pick
    exact pick.nearest ordered
  · intro missed
    rw [missed] at pick
    exact pick.far ordered
  · intro nothing
    cases answered : (q.align target).2 with
    | none => rfl
    | some item =>
      rw [answered] at pick
      rcases nothing with none | ⟨⟨later, member, after⟩, far⟩
      · exact absurd pick.mem (by rw [none]; exact List.not_mem_nil)
      · rcases near_or_newest answered with near | ⟨-, earlier⟩
        · exact absurd near (Nat.not_le.2 (far item pick.mem))
        · exact absurd (earlier later member) (by omega)

/-- Two results of one time, and a later one. -/
def twins : MatchQueue Result :=
  ⟨[⟨1, 10, .classification "first"⟩, ⟨1, 10, .classification "second"⟩,
    ⟨1, 50, .classification "later"⟩], 100000, 30⟩

theorem nearest_law_twins :
    twins.entries.Pairwise (fun a b => time a ≤ time b) ∧
    (twins.align 20).2 = some ⟨1, 10, .classification "second"⟩ ∧
    ∀ other ∈ twins.entries, Nat.dist 10 20 ≤ Nat.dist (time other) 20 := by
  have ordered : twins.entries.Pairwise fun a b => time a ≤ time b := by decide
  exact ⟨ordered, rfl, (nearest_law twins 20 ordered).1 _ rfl⟩

/-! ## The first of several -/

variable {q target}

/-- **Which of several entries with one time is taken out.**  When not all entries are earlier than
the target, what is taken out is the first to arrive of those with its time, unless it is earlier
than the target: then it is the last entry in front of the first one that is not earlier, and so
the last to arrive of those in front of it with its time. -/
theorem arrival_law {item : α} (waits : ∃ due ∈ q.entries, target ≤ time due)
    (answered : (q.align target).2 = some item) :
    ∃ position, q.select? target = some position ∧ q.entries[position]? = some item ∧
      ((target ≤ time item ∧
        ∀ j < position, ∀ other, q.entries[j]? = some other → time other ≠ time item) ∨
      (time item < target ∧ ∃ next, q.Due target (position + 1) next)) := by
  obtain ⟨due, among, not_earlier⟩ := waits
  rw [answer_eq] at answered
  obtain ⟨position, selected, here⟩ := Option.bind_eq_some_iff.1 answered
  refine ⟨position, selected, here, ?_⟩
  rcases cases_of_select? selected with ⟨earlier, -⟩ | ⟨found, first⟩ | ⟨previous, next, -, first⟩
  · exact absurd (earlier due among) (by omega)
  · obtain rfl := Option.some.inj (first.here.symm.trans here)
    refine .inl ⟨first.due, ?_⟩
    intro j front other there
    have past := first.earlier j front other there
    have := first.due
    omega
  · exact .inr ⟨first.earlier position (by omega) item here, next, first⟩

/-- What is later than the target is taken out in the order of arrival. -/
theorem arrival_law_twins :
    (∃ due ∈ twins.entries, 9 ≤ time due) ∧
    (twins.align 9).2 = some ⟨1, 10, .classification "first"⟩ ∧
    ∃ position, twins.select? 9 = some position ∧
      twins.entries[position]? = some ⟨1, 10, .classification "first"⟩ ∧
      ((9 ≤ 10 ∧
        ∀ j < position, ∀ other, twins.entries[j]? = some other → time other ≠ 10) ∨
      (10 < 9 ∧ ∃ next, twins.Due 9 (position + 1) next)) := by
  have waits : ∃ due ∈ twins.entries, 9 ≤ time due := by decide
  exact ⟨waits, rfl, arrival_law waits rfl⟩

/-- Of two results of one time that are both earlier than the target, the second is taken out
first. -/
theorem second_twin_shown :
    ¬ ∀ (q : MatchQueue Result) (target position : Nat) (item : Result),
      (∃ due ∈ q.entries, target ≤ time due) → q.select? target = some position →
      q.entries[position]? = some item →
      ∀ j < position, ∀ other, q.entries[j]? = some other → time other ≠ time item := by
  intro first
  have waits : ∃ due ∈ twins.entries, 20 ≤ time due := by decide
  exact first twins 20 1 _ waits rfl rfl 0 (by decide) _ rfl rfl

end MatchQueue
end Lookout
