import Mathlib.Data.List.ReduceOption
import Lookout.Proofs.Stream.Nearest
import Lookout.Proofs.Stream.Sweeping

/-!
# The order in which items are shown

Items come in the order of their times and targets do not go back.  Only the item that is shown
leaves the queue: those in front of it are passed over, but they keep waiting, and one of them is
shown for a later target if nothing that waits lies between it and that target.  So an older item
may be shown after a newer one (`stragglers_shown_backwards`).  This is the only way in which it may
(`display_order_law`); an item that is not earlier than its target is never older than one that was
shown before.

## Main definitions

* `Showing` — an item that is shown, with the queue and the target, and `MatchQueue.showings` — the
  items that are shown on a run.
* `Showing.PassesOver`, `Showing.IsBelated` — what comes of an item before it is shown too late.
-/

namespace Lookout

open Timed (time)

variable {α : Type} [Timed α]

/-! ## What is left behind -/

namespace Pick

variable {window target : Nat} {entries left : List α} {item : α}

/-- What is left is not older than what is taken out, or it is earlier than the target. -/
theorem le_or_lt_of_left (pick : Pick window target entries (some item) left)
    (ordered : entries.Pairwise fun a b => time a ≤ time b) :
    ∀ other ∈ left, time item ≤ time other ∨ time other < target := by
  intro other member
  cases pick with
  | newest earlier => exact .inr (earlier other (List.mem_append_left _ member))
  | ahead earlier due nearer near =>
    rcases List.mem_append.1 member with front | rest
    · exact .inr (earlier other front)
    · exact .inl (le_of_mem_cons (List.pairwise_append.1 ordered).2.1 (.tail _ rest))
  | behind earlier due nearer near =>
    rcases List.mem_append.1 member with front | rest
    · exact .inr (earlier other (List.mem_append_left _ front))
    · exact .inl (le_of_mem_cons (List.pairwise_append.1 ordered).2.1 (.tail _ rest))

/-- What is taken out although it is earlier than the target is the last that is, and it is near
unless nothing is later. -/
theorem last_of_lt (pick : Pick window target entries (some item) left)
    (past : time item < target) :
    (entries.takeWhile fun other => time other < target).getLast? = some item ∧
      ((∀ other ∈ entries, time other < target) ∨ target - time item ≤ window) := by
  cases pick with
  | newest earlier =>
    have all : (left ++ [item]).takeWhile (fun other => time other < target) = left ++ [item] := by
      rw [List.takeWhile_eq_self_iff]
      simpa using earlier
    rw [all]
    exact ⟨List.getLast?_concat, .inl earlier⟩
  | ahead earlier due => omega
  | behind earlier due nearer near =>
    refine ⟨?_, .inr near⟩
    rw [List.append_cons, List.takeWhile_append_of_pos (by simpa using earlier),
      List.takeWhile_cons_of_neg (by simpa using due), List.append_nil]
    exact List.getLast?_concat

end Pick

/-! ## What is shown -/

/-- An item that is shown: what is taken out of a queue for a target. -/
structure Showing (α : Type) [Timed α] where
  queue : MatchQueue α
  target : Nat
  item : α
  taken : (queue.align target).2 = some item

namespace Showing

/-- An item that is earlier than the target keeps waiting when another one is shown. -/
structure PassesOver (s : Showing α) (item : α) : Prop where
  waits : item ∈ (s.queue.align s.target).1.entries
  earlier : time item < s.target

/-- The item that is shown is earlier than the target.  It is the last of those that are, and it is
within the window unless all that waits is earlier. -/
structure IsBelated (s : Showing α) : Prop where
  earlier : time s.item < s.target
  last : (s.queue.earlier s.target).getLast? = some s.item
  near : (∀ other ∈ s.queue.entries, time other < s.target) ∨
    s.target - time s.item ≤ s.queue.window

theorem pick (s : Showing α) : Pick s.queue.window s.target s.queue.entries (some s.item)
    (s.queue.takeOut s.target).1.entries := by
  rw [← s.taken]
  exact pick_align s.queue s.target

theorem isBelated_of_lt {s : Showing α} (past : time s.item < s.target) : s.IsBelated :=
  have last := s.pick.last_of_lt past
  ⟨past, last.1, last.2⟩

end Showing

namespace MatchQueue

variable (window threshold : Nat)

/-- The items that are shown on a run, latest first. -/
def showings : List (QueueCall α) → List (Showing α)
  | [] => []
  | .push _ :: past => showings past
  | .align target :: past =>
    match taken : ((after window threshold past).align target).2 with
    | some item => ⟨after window threshold past, target, item, taken⟩ :: showings past
    | none => showings past

variable {window threshold}

/-- They are the items that the aligns answer. -/
theorem item_showings (calls : List (QueueCall α)) :
    (showings window threshold calls).map (·.item) =
      (answers window threshold calls).reduceOption := by
  induction calls with
  | nil => rfl
  | cons call past ih =>
    cases call with
    | push item => exact ih
    | align target =>
      simp only [showings, answers]
      split
      · next item taken =>
        simp only [List.map_cons, ih]
        rw [taken, List.reduceOption_cons_of_some]
      · next missed => rw [missed, ih, List.reduceOption_cons_of_none]

theorem mem_pushed_of_showing {calls : List (QueueCall α)} {s : Showing α}
    (shown : s ∈ showings window threshold calls) : s.item ∈ pushed calls := by
  refine mem_pushed_of_answer window threshold calls (List.reduceOption_mem_iff.1 ?_)
  rw [← item_showings]
  exact List.mem_map_of_mem shown

theorem mem_targets_of_showing {calls : List (QueueCall α)} {s : Showing α}
    (shown : s ∈ showings window threshold calls) : s.target ∈ targets calls := by
  induction calls with
  | nil => cases shown
  | cons call past ih =>
    cases call with
    | push item => exact ih shown
    | align target =>
      simp only [showings] at shown
      split at shown
      · rcases List.mem_cons.1 shown with rfl | before
        · exact .head _
        · exact .tail _ (ih before)
      · exact .tail _ (ih shown)

/-- **What waits is not older than what has been shown, unless it was passed over.** -/
theorem le_or_passesOver {calls : List (QueueCall α)}
    (ordered : (pushed calls).Pairwise fun a b => time a ≤ time b) :
    ∀ s ∈ showings window threshold calls, ∀ item ∈ (after window threshold calls).entries,
      time s.item ≤ time item ∨ s.PassesOver item := by
  induction calls with
  | nil => exact fun _ shown => nomatch shown
  | cons call past ih =>
    intro s shown item waits
    cases call with
    | push new =>
      obtain ⟨before, -, latest⟩ := List.pairwise_append.1 ordered
      rcases List.mem_append.1 waits with old | pushed
      · exact ih before s shown item old
      · rw [List.mem_singleton.1 pushed]
        exact .inl (latest _ (mem_pushed_of_showing shown) new (.head _))
    | align target =>
      have left := (entries_align_sublist (after window threshold past) target).mem waits
      have old {s : Showing α} (shown : s ∈ showings window threshold past) :
          time s.item ≤ time item ∨ s.PassesOver item :=
        ih ordered s shown item ((pick_takeOut _ target).sublist.mem left)
      simp only [showings] at shown
      split at shown
      · next taken =>
        rcases List.mem_cons.1 shown with rfl | before
        · have sorted := ordered.sublist (entries_sublist window threshold past)
          have picked := pick_align (after window threshold past) target
          rw [taken] at picked
          exact (picked.le_or_lt_of_left sorted item left).imp_right (⟨waits, ·⟩)
        · exact old before
      · exact old shown

/-- **In which order items are shown.**  Items come in the order of their times and targets do not
go back.  Then what is shown is not older than what was shown before it, unless it was passed over:
it waited then, earlier than the target already, and now it is the last that waits and is earlier
than the target, and within the window if anything later waits. -/
theorem display_order_law (window threshold : Nat) (calls : List (QueueCall α))
    (ordered : (pushed calls).Pairwise fun a b => time a ≤ time b)
    (forward : (targets calls).Pairwise (· ≥ ·)) :
    (showings window threshold calls).map (·.item) =
      (answers window threshold calls).reduceOption ∧
    (showings window threshold calls).Pairwise fun late early =>
      time early.item ≤ time late.item ∨ early.PassesOver late.item ∧ late.IsBelated := by
  refine ⟨item_showings calls, ?_⟩
  induction calls with
  | nil => exact .nil
  | cons call past ih =>
    cases call with
    | push item => exact ih (List.pairwise_append.1 ordered).1 forward
    | align target =>
      have ordered : (pushed past).Pairwise fun a b => time a ≤ time b := ordered
      obtain ⟨later, forward⟩ := List.pairwise_cons.1 forward
      have before := ih ordered forward
      simp only [showings]
      split
      · next item taken =>
        refine List.pairwise_cons.2 ⟨fun early shown => ?_, before⟩
        have waited := pick_align (after window threshold past) target
        rw [taken] at waited
        refine (le_or_passesOver ordered early shown item waited.mem).imp_right fun passed => ?_
        have past : time item < target :=
          Nat.lt_of_lt_of_le passed.earlier (later _ (mem_targets_of_showing shown))
        exact ⟨passed, Showing.isBelated_of_lt past⟩
      · exact before

/-- Two results come in order, and are shown when both are late. -/
def stragglers : List (QueueCall Result) :=
  [.align 22, .align 21, .push (resultAt 20), .push (resultAt 10)]

/-- The newer one is shown first, and the older one for the next frame. -/
theorem display_order_law_stragglers :
    (pushed stragglers).Pairwise (fun a b => time a ≤ time b) ∧
    (targets stragglers).Pairwise (· ≥ ·) ∧
    ((showings 100000 30 stragglers).map (·.item) =
      (answers 100000 30 stragglers).reduceOption ∧
    (showings 100000 30 stragglers).Pairwise fun late early =>
      time early.item ≤ time late.item ∨ early.PassesOver late.item ∧ late.IsBelated) ∧
    (answers 100000 30 stragglers).reduceOption.map time = [10, 20] := by
  have ordered : (pushed stragglers).Pairwise fun a b => time a ≤ time b := by decide
  have forward : (targets stragglers).Pairwise (· ≥ ·) := by decide
  exact ⟨ordered, forward, display_order_law 100000 30 stragglers ordered forward, by decide⟩

/-- So what is shown may be older than what was shown before. -/
theorem stragglers_shown_backwards :
    ¬ ∀ (window threshold : Nat) (calls : List (QueueCall Result)),
      (pushed calls).Pairwise (fun a b => time a ≤ time b) →
      (targets calls).Pairwise (· ≥ ·) →
      ((answers window threshold calls).reduceOption.map time).Pairwise (· ≥ ·) := by
  intro forwards
  exact absurd (forwards 100000 30 stragglers (by decide) (by decide)) (by decide)

end MatchQueue
end Lookout
