import Mathlib.Data.List.Perm.Subperm
import Lookout.Proofs.Stream.QueueRun

/-!
# Where results are

What has been pushed onto a queue still waits, has been taken out for a frame, or has been swept.
Items that look the same are told apart by numbers: the run of a queue on numbered items is the run
on the items themselves, since a queue looks at nothing but times (`after_number`,
`answers_number`).  Nothing is assumed about the order of the times or of the targets
(`inventory_law`).

## Main definitions

* `Numbered`, `MatchQueue.number` — the same run on numbered items.
* `MatchQueue.shown`, `MatchQueue.swept` — the numbers that have left the queue.
* `MatchQueue.Inventory` — what holds of a run.
-/

namespace Lookout

open Timed (time)

/-- An item with the number of those that were pushed before it. -/
structure Numbered (α : Type) where
  number : Nat
  item : α

instance {α : Type} [Timed α] : Timed (Numbered α) where
  time e := time e.item

namespace MatchQueue

section
variable {α : Type}

/-- The same calls, with numbered items. -/
def number : List (QueueCall α) → List (QueueCall (Numbered α))
  | [] => []
  | .push item :: past => .push ⟨(pushed past).length, item⟩ :: number past
  | .align target :: past => .align target :: number past

end

section
variable {α : Type} [Timed α] (window threshold : Nat)

/-- The numbers of the items that were taken out, latest first. -/
def shown (calls : List (QueueCall (Numbered α))) : List Nat :=
  (answers window threshold calls).filterMap (·.map (·.number))

/-- The numbers of the items that an align makes disappear: they wait before it, do not wait after
it, and are not taken out by it. -/
def sweptBy (q : MatchQueue (Numbered α)) (target : Nat) : List Nat :=
  (q.entries.map (·.number)).diff
    (((q.align target).2.toList ++ (q.align target).1.entries).map (·.number))

/-- The numbers of the items that have disappeared, latest first. -/
def swept : List (QueueCall (Numbered α)) → List Nat
  | [] => []
  | .push _ :: past => swept past
  | .align target :: past => sweptBy (after window threshold past) target ++ swept past

end

section
variable {α : Type} [Timed α] (q : MatchQueue α) (target : Nat)

/-- How many items still wait once one has been taken out for a target. -/
def remaining : Nat := q.entries.length - (q.align target).2.toList.length

theorem remaining_eq : q.remaining target = (q.takeOut target).1.entries.length := by
  have all := (pick_align q target).perm.length_eq
  rw [List.length_append] at all
  rw [remaining]
  omega

/-- A sweep leaves nothing that is stale. -/
theorem fresh_of_remaining (full : q.threshold < q.remaining target) :
    ∀ item ∈ (q.align target).1.entries, target - time item ≤ q.window := by
  intro item member
  rw [entries_align, ← remaining_eq, if_pos full] at member
  simpa using (List.mem_filter.1 member).2

/-- An item is taken out or goes on waiting, unless it is stale and too much waits. -/
theorem mem_of_not_stale {item : α} (member : item ∈ q.entries)
    (kept : q.threshold < q.remaining target → target - time item ≤ q.window) :
    item ∈ (q.align target).2.toList ++ (q.align target).1.entries := by
  have parts := (pick_align q target).perm.mem_iff.2 member
  rw [List.mem_append] at parts ⊢
  rw [entries_align, ← remaining_eq]
  refine parts.imp_right fun left => ?_
  split
  · next full => exact List.mem_filter.2 ⟨left, by simpa using kept full⟩
  · exact left

/-- Too much waits after an align only if it is not stale. -/
theorem length_align_le : (q.align target).1.entries.length ≤
    max q.threshold ((q.align target).1.entries.countP (target - q.window ≤ time ·)) := by
  by_cases full : q.threshold < q.remaining target
  · refine Nat.le_trans (Nat.le_of_eq (Eq.symm ?_)) (Nat.le_max_right _ _)
    rw [List.countP_eq_length]
    intro item member
    have := fresh_of_remaining q target full item member
    simp only [decide_eq_true_eq]
    omega
  · refine Nat.le_trans ?_ (Nat.le_max_left _ _)
    rw [entries_align, ← remaining_eq, if_neg full, ← remaining_eq]
    exact Nat.le_of_not_lt full

end

/-! ## Numbers -/

section
variable {α : Type} (calls : List (QueueCall α))

theorem number_pushed :
    (pushed (number calls)).map (·.number) = List.range (pushed calls).length := by
  induction calls with
  | nil => rfl
  | cons call past ih => cases call <;> simp [number, pushed, ih, List.range_succ]

theorem item_pushed : (pushed (number calls)).map (·.item) = pushed calls := by
  induction calls with
  | nil => rfl
  | cons call past ih => cases call <;> simp [number, pushed, ih]

end

section
variable {α β : Type} [Timed α] [Timed β]

/-- A queue looks at nothing but times. -/
theorem align_map {f : α → β} (kept : ∀ item, time (f item) = time item) (q : MatchQueue α)
    (target : Nat) :
    (⟨q.entries.map f, q.window, q.threshold⟩ : MatchQueue β).align target =
      (⟨(q.align target).1.entries.map f, q.window, q.threshold⟩, (q.align target).2.map f) := by
  have picked : (⟨q.entries.map f, q.window, q.threshold⟩ : MatchQueue β).takeOut target =
      (⟨(q.takeOut target).1.entries.map f, q.window, q.threshold⟩,
        (q.takeOut target).2.map f) :=
    Pick.takeOut_eq ((pick_takeOut q target).map kept)
  rw [align_eq, picked, entries_align, answer_align]
  by_cases full : q.threshold < (q.takeOut target).1.entries.length
  · simp [sweep, full, List.filter_map, Function.comp_def, kept]
  · simp [sweep, full]

end

section
variable {α : Type} [Timed α] (window threshold : Nat) (calls : List (QueueCall α))

/-- The queue of numbered items is the queue of the items. -/
theorem after_number : after window threshold calls =
    ⟨(after window threshold (number calls)).entries.map (·.item), window, threshold⟩ := by
  induction calls with
  | nil => rfl
  | cons call past ih =>
    cases call with
    | push item => simp [number, after, push, ih]
    | align target =>
      have same := align_map (f := Numbered.item) (fun _ => rfl)
        (after window threshold (number past)) target
      rw [window_after, threshold_after, ← ih] at same
      simp only [number, after, same]

/-- And it answers with the same items. -/
theorem answers_number : answers window threshold calls =
    (answers window threshold (number calls)).map (·.map (·.item)) := by
  induction calls with
  | nil => rfl
  | cons call past ih =>
    cases call with
    | push item => exact ih
    | align target =>
      have same := align_map (f := Numbered.item) (fun _ => rfl)
        (after window threshold (number past)) target
      rw [window_after, threshold_after, ← after_number] at same
      simp only [number, answers, List.map_cons, same, ih]

end

/-! ## Places -/

section
variable {α : Type} [Timed α] (window threshold : Nat)

/-- What waited before an align was taken out by it, was swept by it, or still waits. -/
theorem perm_sweptBy (q : MatchQueue (Numbered α)) (target : Nat) :
    (((q.align target).2.toList ++ (q.align target).1.entries).map (·.number) ++
      sweptBy q target).Perm (q.entries.map (·.number)) := by
  have parts : ((q.align target).2.toList ++ (q.align target).1.entries).Subperm q.entries := by
    exact ((List.Sublist.refl _).append (entries_align_sublist q target)).subperm.trans
      (pick_align q target).perm.subperm
  obtain ⟨kept, perm, sub⟩ := parts
  have parts : (((q.align target).2.toList ++ (q.align target).1.entries).map (·.number)).Subperm
      (q.entries.map (·.number)) := ⟨kept.map _, perm.map _, sub.map _⟩
  exact List.subperm_append_diff_self_of_count_le fun number _ => parts.count_le number

/-- **Every number is in one place**: it was taken out, was swept, or still waits. -/
theorem perm_places (calls : List (QueueCall (Numbered α))) :
    (shown window threshold calls ++ swept window threshold calls ++
      (after window threshold calls).entries.map (·.number)).Perm
      ((pushed calls).map (·.number)) := by
  induction calls with
  | nil => exact .refl _
  | cons call past ih =>
    cases call with
    | push item =>
      simp only [shown, answers, swept, after, push, pushed, List.map_append] at ih ⊢
      rw [← List.append_assoc]
      exact ih.append_right _
    | align target =>
      have parts := perm_sweptBy (after window threshold past) target
      rw [List.perm_iff_count] at ih parts ⊢
      intro number
      have before := ih number
      have split := parts number
      simp only [shown, answers, swept, after, pushed, List.map_append, List.count_append]
        at before split ⊢
      cases answer : ((after window threshold past).align target).2 with
      | none => simp [answer] at split ⊢; omega
      | some item => simp [answer, List.count_cons] at split ⊢; omega

end

section
variable {α : Type} [Timed α]

/-- Where the items of a run are, told apart by their numbers. -/
structure Inventory (window threshold : Nat) (calls : List (QueueCall α)) : Prop where
  /-- items are numbered as they were pushed -/
  numbered : (pushed (number calls)).map (·.number) = List.range (pushed calls).length
  items : (pushed (number calls)).map (·.item) = pushed calls
  /-- and their numbers make no difference to what waits or to what is taken out -/
  waiting : (after window threshold calls).entries =
    (after window threshold (number calls)).entries.map (·.item)
  answered : answers window threshold calls =
    (answers window threshold (number calls)).map (·.map (·.item))
  /-- every number is in one place, and there once -/
  places : (shown window threshold (number calls) ++ swept window threshold (number calls) ++
    (after window threshold (number calls)).entries.map (·.number)).Perm
    (List.range (pushed calls).length)
  /-- what is taken out was pushed with that number -/
  answered_pushed : ∀ e, some e ∈ answers window threshold (number calls) →
    e ∈ pushed (number calls)
  /-- what waits was pushed in the order in which it waits -/
  ordered : (after window threshold (number calls)).entries.Sublist (pushed (number calls))
  /-- what an align sweeps is stale, and too much waited when it had taken out its item -/
  stale : ∀ target, ∀ e ∈ (after window threshold (number calls)).entries,
    e.number ∈ sweptBy (after window threshold (number calls)) target →
    threshold < (after window threshold (number calls)).remaining target ∧
      window < target - time e
  /-- such an align leaves nothing stale -/
  fresh : ∀ target, threshold < (after window threshold calls).remaining target →
    ∀ item ∈ ((after window threshold calls).align target).1.entries,
      target - time item ≤ window
  /-- and no align leaves too much that is stale -/
  length_le : ∀ target, ((after window threshold calls).align target).1.entries.length ≤
    max threshold (((after window threshold calls).align target).1.entries.countP
      (target - window ≤ time ·))

/-- **Nothing is lost and nothing is shown twice.**  On every run, whatever the order of the times
and of the targets, an item that was pushed has been taken out by one align, has been swept by one
that still found too much waiting, as one that was more than a window older than its target, or
still waits, in the order of arrival. -/
theorem inventory_law (window threshold : Nat) (calls : List (QueueCall α)) :
    Inventory window threshold calls := by
  have places := perm_places window threshold (number calls)
  have ordered := entries_sublist window threshold (number calls)
  have waiting := after_number window threshold calls
  rw [number_pushed] at places
  refine ⟨number_pushed calls, item_pushed calls, congrArg entries waiting,
    answers_number window threshold calls, places, fun e => mem_pushed_of_answer _ _ _, ordered,
    ?_, ?_, ?_⟩
  · intro target e member gone
    -- Each number waits once, so what disappears is neither taken out nor left.
    have apart : ((after window threshold (number calls)).entries.map (·.number)).Nodup := by
      have sub := ordered.map (·.number)
      rw [number_pushed] at sub
      exact List.nodup_range.sublist sub
    have parts := (perm_sweptBy _ target).nodup_iff.2 apart
    rw [List.nodup_append] at parts
    by_contra kept
    refine parts.2.2 e.number (List.mem_map_of_mem (mem_of_not_stale _ target member ?_))
      e.number gone rfl
    intro full
    rw [threshold_after] at full
    rw [window_after]
    by_contra old
    exact kept ⟨full, Nat.lt_of_not_le old⟩
  · intro target full
    have fresh := fresh_of_remaining (after window threshold calls) target
    rw [threshold_after, window_after] at fresh
    exact fresh full
  · intro target
    have most := length_align_le (after window threshold calls) target
    rwa [threshold_after, window_after] at most

end
end MatchQueue
end Lookout
