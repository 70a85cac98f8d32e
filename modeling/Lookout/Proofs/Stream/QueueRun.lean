import Lookout.Proofs.Stream.Selection

/-!
# Runs of a queue

A run of a queue is a list of calls, latest first: items are pushed, and at most one is taken out
for each target.  Neither the times of the items nor the targets need come in any order.

## Main definitions

* `QueueCall`, `MatchQueue.after`, `MatchQueue.answers`.
* `MatchQueue.pushed`, `MatchQueue.targets` — what goes in.
-/

namespace Lookout

open Timed (time)

/-- One use of a queue. -/
inductive QueueCall (α : Type) where
  | push (item : α)
  | align (target : Nat)

namespace MatchQueue

section
variable {α : Type}

/-- What has been pushed, oldest first. -/
def pushed : List (QueueCall α) → List α
  | [] => []
  | .push item :: past => pushed past ++ [item]
  | .align _ :: past => pushed past

/-- The targets of a run, latest first. -/
def targets : List (QueueCall α) → List Nat
  | [] => []
  | .push _ :: past => targets past
  | .align target :: past => target :: targets past

theorem pushed_mono {past calls : List (QueueCall α)} (earlier : past <:+ calls) :
    pushed past <+: pushed calls := by
  induction calls with
  | nil => exact List.suffix_nil.1 earlier ▸ List.prefix_rfl
  | cons call calls ih =>
    rcases List.suffix_cons_iff.1 earlier with rfl | inner
    · exact List.prefix_rfl
    · cases call with
      | push item => exact (ih inner).trans (List.prefix_append _ _)
      | align target => exact ih inner

theorem targets_mono {past calls : List (QueueCall α)} (earlier : past <:+ calls) :
    targets past <:+ targets calls := by
  induction calls with
  | nil => exact List.suffix_nil.1 earlier ▸ List.suffix_rfl
  | cons call calls ih =>
    rcases List.suffix_cons_iff.1 earlier with rfl | inner
    · exact List.suffix_rfl
    · cases call with
      | push item => exact ih inner
      | align target => exact (ih inner).trans (List.suffix_cons _ _)

end

/-! ## One align -/

section
variable {α : Type} [Timed α] (q : MatchQueue α) (target : Nat)

@[simp] theorem window_takeOut : (q.takeOut target).1.window = q.window := by
  rw [(pick_takeOut q target).takeOut_eq]

@[simp] theorem threshold_takeOut : (q.takeOut target).1.threshold = q.threshold := by
  rw [(pick_takeOut q target).takeOut_eq]

@[simp] theorem window_align : (q.align target).1.window = q.window := by
  rw [align_eq, sweep]
  split <;> exact window_takeOut q target

@[simp] theorem threshold_align : (q.align target).1.threshold = q.threshold := by
  rw [align_eq, sweep]
  split <;> exact threshold_takeOut q target

/-- What waits after an align: what was left, without the stale if there was too much of it. -/
theorem entries_align : (q.align target).1.entries =
    if q.threshold < (q.takeOut target).1.entries.length then
      (q.takeOut target).1.entries.filter fun item => target - time item ≤ q.window
    else (q.takeOut target).1.entries := by
  rw [align_eq, sweep, threshold_takeOut, window_takeOut]
  split <;> rfl

theorem answer_align : (q.align target).2 = (q.takeOut target).2 := by
  rw [align_eq]

theorem entries_align_sublist :
    (q.align target).1.entries.Sublist (q.takeOut target).1.entries := by
  rw [entries_align]
  split
  · exact List.filter_sublist
  · exact List.Sublist.refl _

end

/-! ## Runs -/

section
variable {α : Type} [Timed α] (window threshold : Nat)

/-- The queue after some calls, which are given latest first. -/
def after : List (QueueCall α) → MatchQueue α
  | [] => empty window threshold
  | .push item :: past => (after past).push item
  | .align target :: past => ((after past).align target).1

/-- What was taken out for each target, latest first. -/
def answers : List (QueueCall α) → List (Option α)
  | [] => []
  | .push _ :: past => answers past
  | .align target :: past => ((after window threshold past).align target).2 :: answers past

variable (calls : List (QueueCall α))

@[simp] theorem window_after : (after window threshold calls).window = window := by
  induction calls with
  | nil => rfl
  | cons call past ih =>
    cases call with
    | push item => exact ih
    | align target => exact (window_align _ target).trans ih

@[simp] theorem threshold_after : (after window threshold calls).threshold = threshold := by
  induction calls with
  | nil => rfl
  | cons call past ih =>
    cases call with
    | push item => exact ih
    | align target => exact (threshold_align _ target).trans ih

/-- What waits has been pushed, and waits in the order in which it was. -/
theorem entries_sublist :
    (after window threshold calls).entries.Sublist (pushed calls) := by
  induction calls with
  | nil => exact List.Sublist.refl _
  | cons call past ih =>
    cases call with
    | push item => exact ih.append (List.Sublist.refl _)
    | align target =>
      exact ((entries_align_sublist _ target).trans (pick_takeOut _ target).sublist).trans ih

/-- What is taken out has been pushed. -/
theorem mem_pushed_of_answer {item : α}
    (answered : some item ∈ answers window threshold calls) : item ∈ pushed calls := by
  induction calls with
  | nil => cases answered
  | cons call past ih =>
    cases call with
    | push other => exact List.mem_append_left _ (ih answered)
    | align target =>
      rcases List.mem_cons.1 answered with now | before
      · refine (entries_sublist window threshold past).mem ?_
        have picked := pick_align (after window threshold past) target
        rw [← now] at picked
        exact picked.mem
      · exact ih before

end
end MatchQueue
end Lookout
