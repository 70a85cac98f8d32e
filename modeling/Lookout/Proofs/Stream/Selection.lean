import Mathlib.Data.List.Induction
import Mathlib.Data.List.TakeWhile
import Lookout.Stream.Queue

/-!
# What is taken out of a queue

`Pick` says which entry of a queue belongs to a target, without positions and without a scan: the
entries that are earlier than the target come first, and the choice is between the last of them and
the entry behind it.  `align` takes out what `Pick` says and nothing else (`Pick.takeOut_eq`,
`pick_takeOut`), and then sweeps; every law about a queue is a case analysis on `Pick`.

## Main definitions

* `Pick` — what is taken out of some entries at a target, and what is left.
* `MatchQueue.takeOut` — what `align` does before it sweeps.
-/

namespace Lookout

open Timed (time)

variable {α : Type} [Timed α]

/-- What is taken out of some entries at a target, and what is left of them. -/
inductive Pick (window target : Nat) : List α → Option α → List α → Prop where
  | empty : Pick window target [] none []
  /-- all are earlier than the target, by however much -/
  | newest {front : List α} {last : α} (earlier : ∀ item ∈ front ++ [last], time item < target) :
      Pick window target (front ++ [last]) (some last) front
  /-- the first one that is not earlier is nearer than the one in front of it -/
  | ahead {before later : List α} {next : α} (earlier : ∀ item ∈ before, time item < target)
      (due : target ≤ time next)
      (nearer : ∀ previous ∈ before.getLast?, time next - target < target - time previous)
      (near : time next - target ≤ window) :
      Pick window target (before ++ next :: later) (some next) (before ++ later)
  /-- the one in front of it is nearer, or as near -/
  | behind {front later : List α} {previous next : α}
      (earlier : ∀ item ∈ front ++ [previous], time item < target) (due : target ≤ time next)
      (nearer : target - time previous ≤ time next - target)
      (near : target - time previous ≤ window) :
      Pick window target (front ++ previous :: next :: later) (some previous)
        (front ++ next :: later)
  /-- neither of them is near enough -/
  | missed {before later : List α} {next : α} (earlier : ∀ item ∈ before, time item < target)
      (due : target ≤ time next) (far : window < time next - target)
      (farther : ∀ previous ∈ before.getLast?, window < target - time previous) :
      Pick window target (before ++ next :: later) none (before ++ next :: later)

/-- Something can always be said about what is taken out. -/
theorem exists_pick (window target : Nat) (entries : List α) :
    ∃ picked left, Pick window target entries picked left := by
  have earlier : ∀ item ∈ entries.takeWhile fun item => time item < target, time item < target :=
    fun item member => by simpa using List.mem_takeWhile_imp member
  have parts := List.takeWhile_append_dropWhile (p := fun item => time item < target) (l := entries)
  generalize entries.takeWhile (fun item => time item < target) = before at earlier parts
  cases rest : entries.dropWhile fun item => time item < target with
  | nil =>
    rw [rest, List.append_nil] at parts
    subst parts
    induction before using List.reverseRecOn with
    | nil => exact ⟨_, _, .empty⟩
    | append_singleton front last => exact ⟨_, _, .newest earlier⟩
  | cons next later =>
    have due : target ≤ time next := by
      have := List.head?_dropWhile_not (fun item => decide (time item < target)) entries
      simpa [rest] using this
    rw [rest] at parts
    subst parts
    -- The order of the tests is that of the scan: which of the two, and then whether it is near.
    induction before using List.reverseRecOn with
    | nil =>
      by_cases near : time next - target ≤ window
      · exact ⟨_, _, .ahead earlier due nofun near⟩
      · exact ⟨_, _, .missed earlier due (Nat.lt_of_not_le near) nofun⟩
    | append_singleton front previous =>
      by_cases nearer : time next - target < target - time previous
      · by_cases near : time next - target ≤ window
        · exact ⟨_, _, .ahead earlier due (by simpa using nearer) near⟩
        · refine ⟨_, _, .missed earlier due (Nat.lt_of_not_le near) ?_⟩
          simp only [List.getLast?_concat, Option.mem_some_iff, forall_eq']
          omega
      · by_cases near : target - time previous ≤ window
        · rw [List.append_assoc]
          exact ⟨_, _, .behind earlier due (Nat.le_of_not_lt nearer) near⟩
        · refine ⟨_, _, .missed earlier due (by omega) ?_⟩
          simp only [List.getLast?_concat, Option.mem_some_iff, forall_eq']
          omega

namespace MatchQueue

/-- What `align` does before it sweeps. -/
def takeOut (q : MatchQueue α) (target : Nat) : MatchQueue α × Option α :=
  match q.select? target with
  | none => (q, none)
  | some position => ({ q with entries := q.entries.eraseIdx position }, q.entries[position]?)

variable (q : MatchQueue α) (target : Nat)

theorem align_eq :
    q.align target = ((q.takeOut target).1.sweep target, (q.takeOut target).2) := by
  simp only [align, takeOut]
  cases q.select? target <;> rfl

end MatchQueue

section
variable {q : MatchQueue α} {target : Nat} {picked : Option α} {left : List α}

/-- The scan stops behind all that is earlier, in front of the first entry that is not. -/
theorem select?_of_due {before later : List α} {next : α}
    (entries_eq : q.entries = before ++ next :: later)
    (earlier : ∀ item ∈ before, time item < target)
    (due : target ≤ time next) :
    q.select? target =
      match before.getLast? with
      | none => q.within (time next - target) 0
      | some previous =>
        if time next - target < target - time previous then
          q.within (time next - target) before.length
        else q.within (target - time previous) (before.length - 1) := by
  have stop : q.earlier target = before := by
    rw [MatchQueue.earlier, entries_eq, List.takeWhile_append_of_pos (by simpa using earlier),
      List.takeWhile_cons_of_neg (by simpa using due), List.append_nil]
  simp only [MatchQueue.select?, stop, entries_eq, List.drop_left]
  cases before.getLast? <;> rfl

/-- **What `align` takes out is determined by the entries.** -/
theorem Pick.takeOut_eq (pick : Pick q.window target q.entries picked left) :
    q.takeOut target = ({ q with entries := left }, picked) := by
  obtain ⟨entries, window, threshold⟩ := q
  simp only at pick
  cases pick with
  | empty => rfl
  | @newest _ last earlier =>
    have all : (left ++ [last]).takeWhile (fun item => time item < target) = left ++ [last] := by
      rw [List.takeWhile_eq_self_iff]
      simpa using earlier
    simp [MatchQueue.takeOut, MatchQueue.select?, MatchQueue.earlier, all,
      List.eraseIdx_append_of_length_le]
  | @ahead before later next earlier due nearer near =>
    have position : (⟨before ++ next :: later, window, threshold⟩ : MatchQueue α).select? target =
        some before.length := by
      rw [select?_of_due rfl earlier due]
      cases last : before.getLast? with
      | none => simp [MatchQueue.within, near, List.getLast?_eq_none_iff.1 last]
      | some previous => simp [MatchQueue.within, near, nearer previous last]
    simp [MatchQueue.takeOut, position, List.eraseIdx_append_of_length_le]
  | @behind front later previous next earlier due nearer near =>
    have position : (⟨front ++ previous :: next :: later, window, threshold⟩ :
        MatchQueue α).select? target = some front.length := by
      rw [select?_of_due (List.append_cons front previous (next :: later)) earlier due]
      simp [MatchQueue.within, near, Nat.not_lt.2 nearer]
    simp [MatchQueue.takeOut, position, List.eraseIdx_append_of_length_le]
  | @missed before later next earlier due far farther =>
    have position : (⟨before ++ next :: later, window, threshold⟩ : MatchQueue α).select? target =
        none := by
      rw [select?_of_due rfl earlier due]
      cases last : before.getLast? with
      | none => simp [MatchQueue.within, Nat.not_le.2 far]
      | some previous =>
        simp [MatchQueue.within, Nat.not_le.2 far, Nat.not_le.2 (farther previous last)]
    simp [MatchQueue.takeOut, position]

theorem pick_takeOut (q : MatchQueue α) (target : Nat) :
    Pick q.window target q.entries (q.takeOut target).2 (q.takeOut target).1.entries := by
  obtain ⟨picked, left, pick⟩ := exists_pick q.window target q.entries
  rw [pick.takeOut_eq]
  exact pick

theorem pick_align (q : MatchQueue α) (target : Nat) :
    Pick q.window target q.entries (q.align target).2 (q.takeOut target).1.entries := by
  rw [MatchQueue.align_eq]
  exact pick_takeOut q target

end

namespace Pick

variable {window target : Nat} {entries left : List α} {picked : Option α}

/-- What is taken out and what is left are all there was. -/
theorem perm (pick : Pick window target entries picked left) :
    (picked.toList ++ left).Perm entries := by
  cases pick with
  | empty | missed => exact .refl _
  | newest => exact (List.perm_append_singleton _ _).symm
  | ahead | behind =>
    rw [Option.toList_some, List.singleton_append]
    exact List.perm_middle.symm

theorem mem {item : α} (pick : Pick window target entries (some item) left) : item ∈ entries :=
  pick.perm.subset (.head _)

/-- What is left stays in its order. -/
theorem sublist (pick : Pick window target entries picked left) : left.Sublist entries := by
  cases pick with
  | empty | missed => exact .refl _
  | newest => exact List.sublist_append_left _ _
  | ahead | behind => exact (List.Sublist.refl _).append (List.sublist_cons_self _ _)

/-- What is taken out depends on the times of the entries only. -/
theorem map {β : Type} [Timed β] {f : α → β} (kept : ∀ item, time (f item) = time item)
    (pick : Pick window target entries picked left) :
    Pick window target (entries.map f) (picked.map f) (left.map f) := by
  cases pick with
  | empty => exact .empty
  | newest earlier =>
    simp only [List.map_append]
    exact .newest (by simpa [kept, or_imp, forall_and] using earlier)
  | ahead earlier due nearer near =>
    simp only [List.map_append, List.map_cons]
    exact .ahead (by simpa [kept] using earlier) (by simpa [kept] using due)
      (by simpa [kept] using nearer) (by simpa [kept] using near)
  | behind earlier due nearer near =>
    simp only [List.map_append, List.map_cons]
    exact .behind (by simpa [kept, or_imp, forall_and] using earlier) (by simpa [kept] using due)
      (by simpa [kept] using nearer) (by simpa [kept] using near)
  | missed earlier due far farther =>
    simp only [List.map_append, List.map_cons]
    exact .missed (by simpa [kept] using earlier) (by simpa [kept] using due)
      (by simpa [kept] using far) (by simpa [kept] using farther)

end Pick

end Lookout
