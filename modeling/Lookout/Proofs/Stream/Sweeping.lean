import Lookout.Proofs.Stream.QueueRun
import Lookout.Stream.Basic

/-!
# Sweeping does no harm

A queue that sweeps is compared with one that never does, on a run on which items come in the order
of their times and targets do not go back.  The queue that never sweeps holds what the other one
holds and, in front of it, items that are stale for every later target (`Trails`).  Such items are
too far away to be selected next to a later one, so both queues answer the same; only when nothing
else waits does the queue that never sweeps still show one of them (`sweeping_law`).

## Main definitions

* `MatchQueue.Trails` — how the two queues are related.
-/

namespace Lookout

open Timed (time)

variable {α : Type} [Timed α]

/-! ## Stale items in front -/

namespace Pick

variable {window target : Nat} {old entries left : List α} {picked : Option α}

theorem earlier_of_stale (stale : ∀ item ∈ old, window < target - time item) :
    ∀ item ∈ old, time item < target := by
  intro item member
  have := stale item member
  omega

/-- When only stale items wait, the newest of them is taken out. -/
theorem of_stale (stale : ∀ item ∈ old, window < target - time item) :
    Pick window target old old.getLast? old.dropLast := by
  induction old using List.reverseRecOn with
  | nil => exact .empty
  | append_singleton front last =>
    rw [List.getLast?_concat, List.dropLast_concat]
    exact .newest (earlier_of_stale stale)

/-- What is in front of the first item that is not earlier is as far away as before, when stale
items are put in front of all. -/
theorem lt_of_getLast?_append {before : List α} {distance : Nat}
    (stale : ∀ item ∈ old, distance < target - time item)
    (known : ∀ previous ∈ before.getLast?, distance < target - time previous) :
    ∀ previous ∈ (old ++ before).getLast?, distance < target - time previous := by
  intro previous last
  rw [List.getLast?_append] at last
  cases own : before.getLast? with
  | none =>
    rw [own, Option.none_or] at last
    exact stale previous (List.mem_of_getLast? last)
  | some newest =>
    rw [own, Option.some_or] at last
    exact known previous (own.trans last)

/-- Stale items in front of others make no difference to what is taken out. -/
theorem append_stale (stale : ∀ item ∈ old, window < target - time item)
    (pick : Pick window target entries picked left) (some_waits : entries ≠ []) :
    Pick window target (old ++ entries) picked (old ++ left) := by
  have past := earlier_of_stale stale
  have still {before : List α} (earlier : ∀ item ∈ before, time item < target) :
      ∀ item ∈ old ++ before, time item < target := fun item member =>
    (List.mem_append.1 member).elim (past item) (earlier item)
  cases pick with
  | empty => exact absurd rfl some_waits
  | newest earlier =>
    rw [← List.append_assoc]
    refine .newest ?_
    rw [List.append_assoc]
    exact still earlier
  | ahead earlier due nearer near =>
    rw [← List.append_assoc, ← List.append_assoc]
    refine .ahead (still earlier) due (lt_of_getLast?_append (fun item member => ?_) nearer) near
    exact Nat.lt_of_le_of_lt near (stale item member)
  | behind earlier due nearer near =>
    rw [← List.append_assoc, ← List.append_assoc]
    refine .behind ?_ due nearer near
    rw [List.append_assoc]
    exact still earlier
  | missed earlier due far farther =>
    rw [← List.append_assoc]
    exact .missed (still earlier) due far (lt_of_getLast?_append stale farther)

end Pick

namespace MatchQueue

/-- A queue that holds what another one holds and, in front of it, only what is stale for one of
the targets so far. -/
def Trails (window : Nat) (targets : List Nat) (unswept swept : MatchQueue α) : Prop :=
  ∃ old, unswept.entries = old ++ swept.entries ∧
    ∀ item ∈ old, ∃ target ∈ targets, window < target - time item

/-- The stale come first in what waits in the order of time. -/
theorem filter_append_filter (window target : Nat) {items : List α}
    (ordered : items.Pairwise fun a b => time a ≤ time b) :
    items.filter (fun item => !decide (target - time item ≤ window)) ++
      items.filter (fun item => target - time item ≤ window) = items := by
  induction ordered with
  | nil => rfl
  | @cons first rest later ordered ih =>
    by_cases fresh : target - time first ≤ window
    · have all : ∀ item ∈ rest, target - time item ≤ window := by
        intro item member
        have := later item member
        omega
      have none : rest.filter (fun item => !decide (target - time item ≤ window)) = [] := by
        rw [List.filter_eq_nil_iff]
        simpa using all
      rw [none, List.nil_append] at ih
      rw [List.filter_cons_of_neg (by simpa using fresh), none,
        List.filter_cons_of_pos (by simpa using fresh), ih, List.nil_append]
    · rw [List.filter_cons_of_pos (by simpa using fresh),
        List.filter_cons_of_neg (by simpa using fresh), List.cons_append, ih]

section
variable {window threshold unswept target : Nat} {q u : MatchQueue α} {seen : List Nat}

/-- What an align does to two queues of which one trails: both answer the same, or only the queue
that never sweeps still has something, and that is stale; and the one still trails. -/
theorem Trails.align (trails : Trails window seen u q)
    (forward : ∀ earlier ∈ seen, earlier ≤ target)
    (ordered : q.entries.Pairwise fun a b => time a ≤ time b) (window_q : q.window = window)
    (window_u : u.window = window) (room : u.entries.length ≤ u.threshold) :
    ((q.align target).2 = (u.align target).2 ∨
      (q.align target).2 = none ∧ ∃ item, (u.align target).2 = some item ∧
        u.entries.getLast? = some item ∧ (∀ other ∈ u.entries, time other < target) ∧
        window < target - time item) ∧
    Trails window (target :: seen) (u.align target).1 (q.align target).1 := by
  obtain ⟨old, entries_eq, staleness⟩ := trails
  have stale : ∀ item ∈ old, window < target - time item := by
    intro item member
    obtain ⟨earlier, known, far⟩ := staleness item member
    have := forward earlier known
    omega
  have pick := pick_takeOut q target
  rw [window_q] at pick
  have unswept_eq : (u.align target).1.entries = (u.takeOut target).1.entries := by
    have shorter := (pick_takeOut u target).sublist.length_le
    rw [entries_align, if_neg (by omega)]
  by_cases some_waits : q.entries = []
  · -- Only stale items wait, and only in the queue that never sweeps.
    rw [some_waits, List.append_nil] at entries_eq
    rw [some_waits] at pick
    have nothing : (q.takeOut target).2 = none ∧ (q.takeOut target).1.entries = [] := by
      have all := pick.perm.length_eq
      simp only [List.length_append, List.length_nil, Nat.add_eq_zero_iff,
        List.length_eq_zero_iff, Option.toList_eq_nil_iff] at all
      exact all
    have pick_u : Pick u.window target u.entries old.getLast? old.dropLast := by
      rw [entries_eq, window_u]
      exact .of_stale stale
    have taken := pick_u.takeOut_eq
    refine ⟨?_, old.dropLast, ?_, ?_⟩
    · rw [answer_align, answer_align, nothing.1, taken]
      cases last : old.getLast? with
      | none => exact .inl rfl
      | some item =>
        refine .inr ⟨rfl, item, rfl, by rw [entries_eq, last], ?_,
          stale item (List.mem_of_getLast? last)⟩
        rw [entries_eq]
        exact Pick.earlier_of_stale stale
    · have left : (q.align target).1.entries = [] :=
        List.eq_nil_of_sublist_nil (nothing.2 ▸ entries_align_sublist q target)
      rw [unswept_eq, taken, left, List.append_nil]
    · intro item member
      exact ⟨target, .head _, stale item ((List.dropLast_sublist old).mem member)⟩
  · have pick_u : Pick u.window target u.entries (q.takeOut target).2
        (old ++ (q.takeOut target).1.entries) := by
      rw [entries_eq, window_u]
      exact pick.append_stale stale some_waits
    have taken := pick_u.takeOut_eq
    refine ⟨.inl (by rw [answer_align, answer_align, taken]), ?_⟩
    have sorted := ordered.sublist pick.sublist
    have parts := filter_append_filter window target sorted
    rw [Trails, unswept_eq, taken, entries_align, window_q]
    split
    · -- What is swept joins the stale items in front.
      refine ⟨old ++ (q.takeOut target).1.entries.filter
        fun item => !decide (target - time item ≤ window), by rw [List.append_assoc, parts], ?_⟩
      intro item member
      refine ⟨target, .head _, ?_⟩
      rcases List.mem_append.1 member with before | now
      · exact stale item before
      · simpa only [Bool.not_eq_true', decide_eq_false_iff_not, Nat.not_le] using
          (List.mem_filter.1 now).2
    · exact ⟨old, rfl, fun item member => ⟨target, .head _, stale item member⟩⟩

end

section
variable {window threshold unswept : Nat}

/-- On a forward run the queue that never sweeps trails. -/
theorem trails_after (calls : List (QueueCall α))
    (ordered : (pushed calls).Pairwise fun a b => time a ≤ time b)
    (forward : (targets calls).Pairwise (· ≥ ·)) (room : (pushed calls).length ≤ unswept) :
    Trails window (targets calls) (after window unswept calls) (after window threshold calls) := by
  induction calls with
  | nil => exact ⟨[], rfl, nofun⟩
  | cons call past ih =>
    cases call with
    | push item =>
      simp only [pushed, List.length_append] at ordered room
      obtain ⟨old, entries_eq, stale⟩ :=
        ih (List.pairwise_append.1 ordered).1 forward (by omega)
      exact ⟨old, by simp [after, push, entries_eq], stale⟩
    | align target =>
      obtain ⟨later, forward⟩ := List.pairwise_cons.1 forward
      refine (Trails.align (ih ordered forward room) later
        (ordered.sublist (entries_sublist window threshold past)) (window_after ..)
        (window_after ..) ?_).2
      rw [threshold_after]
      exact (entries_sublist window unswept past).length_le.trans room

/-- **Sweeping removes only what can no longer match.**  Items come in the order of their times and
targets do not go back; one queue sweeps above any threshold, the other one has room for all items
and never does.  Then for every target both show the same, or the queue that sweeps shows nothing,
where the other one has only earlier items and shows the newest of them, which is stale. -/
theorem sweeping_law (window threshold unswept : Nat) (calls : List (QueueCall α))
    (ordered : (pushed calls).Pairwise fun a b => time a ≤ time b)
    (forward : (targets calls).Pairwise (· ≥ ·)) (room : (pushed calls).length ≤ unswept)
    (target : Nat) (past : List (QueueCall α)) (earlier : .align target :: past <:+ calls) :
    let q := after window threshold past
    let u := after window unswept past
    (q.align target).2 = (u.align target).2 ∨
    (q.align target).2 = none ∧ ∃ item, (u.align target).2 = some item ∧
      u.entries.getLast? = some item ∧ (∀ other ∈ u.entries, time other < target) ∧
      window < target - time item := by
  have before := (List.suffix_cons _ past).trans earlier
  have ordered := ordered.sublist (pushed_mono before).sublist
  have room := (pushed_mono before).length_le.trans room
  obtain ⟨later, forward⟩ := List.pairwise_cons.1 (forward.sublist (targets_mono earlier).sublist)
  refine (Trails.align (trails_after past ordered forward room) later
    (ordered.sublist (entries_sublist window threshold past)) (window_after ..)
    (window_after ..) ?_).1
  rw [threshold_after]
  exact (entries_sublist window unswept past).length_le.trans room

end

/-- A result with a time. -/
def resultAt (timestamp : Timestamp) : Result := ⟨1, timestamp, .classification ""⟩

/-- Two results come long before a third one, which is shown; then nothing comes any more. -/
def laggards : List (QueueCall Result) :=
  [.align 200, .align 100, .push (resultAt 100), .push (resultAt 5), .push (resultAt 0)]

/-- The queue that sweeps has nothing left, and the other one shows the newer of the two. -/
theorem sweeping_law_laggards :
    (pushed laggards).Pairwise (fun a b => time a ≤ time b) ∧
    (targets laggards).Pairwise (· ≥ ·) ∧ (pushed laggards).length ≤ 3 ∧
    (((after 10 1 laggards.tail).align 200).2 = ((after 10 3 laggards.tail).align 200).2 ∨
      ((after 10 1 laggards.tail).align 200).2 = none ∧
      ∃ item, ((after 10 3 laggards.tail).align 200).2 = some item ∧
        (after 10 3 laggards.tail).entries.getLast? = some item ∧
        (∀ other ∈ (after 10 3 laggards.tail).entries, time other < 200) ∧ 10 < 200 - time item) ∧
    ((after 10 1 laggards.tail).align 200).2.map time = none ∧
    ((after 10 3 laggards.tail).align 200).2.map time = some 5 := by
  have ordered : (pushed laggards).Pairwise fun a b => time a ≤ time b := by decide
  have forward : (targets laggards).Pairwise (· ≥ ·) := by decide
  have room : (pushed laggards).length ≤ 3 := by decide
  exact ⟨ordered, forward, room,
    sweeping_law 10 1 3 laggards ordered forward room 200 laggards.tail List.suffix_rfl,
    by decide, by decide⟩

end MatchQueue
end Lookout
