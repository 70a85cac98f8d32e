import Mathlib.Data.Nat.Dist
import Lookout.Proofs.Stream.Selection

/-!
# One pass over a queue

`select?` says which entry belongs to a target by the entries in front of it.  The same is found by
one pass that carries the time of the entry it has just left, and that may stop at any entry
(`scanFrom`).  Such a pass subtracts times and steps back by one position, on numbers that know
nothing below zero.  It never goes wrong, since all that it has left is earlier than the target
(`scanFrom_eq`), and it stops at the first entry that is not (`selection_law`).

## Main definitions

* `MatchQueue.scan` — the pass, with every difference and every position checked.
* `MatchQueue.Due` — the first entry that is not earlier than a target.
* `MatchQueue.Selection` — which position is selected.
-/

namespace Lookout

open Timed (time)

variable {α : Type} [Timed α]

namespace MatchQueue

/-! ## The pass -/

/-- What a pass must not run into. -/
inductive ScanFault where
  /-- a difference below zero -/
  | underflow
  /-- a position at which there is no entry -/
  | outOfRange

/-- A difference of numbers that know nothing below zero. -/
def difference (a b : Nat) : Except ScanFault Nat :=
  if b ≤ a then .ok (a - b) else .error .underflow

/-- The pass from position `index` on; `previous` is the time of the entry in front of it. -/
def scanFrom (window target : Nat) :
    Nat → Option Nat → List α → Except ScanFault (Option Nat)
  | index, _, [] => .ok (if 1 ≤ index then some (index - 1) else none)
  | index, previous, item :: rest =>
    if time item = target then .ok (some index)
    else if target < time item then do
      let ahead ← difference (time item) target
      match previous with
      | none => .ok (if ahead ≤ window then some index else none)
      | some previous =>
        let behind ← difference target previous
        if ahead < behind then .ok (if ahead ≤ window then some index else none)
        else
          let position ← difference index 1
          .ok (if behind ≤ window then some position else none)
    else scanFrom window target (index + 1) (some (time item)) rest

/-- The entry at a position. -/
def fetch (q : MatchQueue α) (position : Nat) : Except ScanFault α :=
  match q.entries[position]? with
  | some item => .ok item
  | none => .error .outOfRange

/-- The entry that the pass selects. -/
def scan (q : MatchQueue α) (target : Nat) : Except ScanFault (Option α) := do
  match ← scanFrom q.window target 0 none q.entries with
  | none => .ok none
  | some position => return some (← q.fetch position)

theorem difference_of_le {a b : Nat} (le : b ≤ a) : difference a b = .ok (a - b) := if_pos le

variable {q : MatchQueue α} {target : Nat}

/-- When all are earlier, the last position is selected. -/
theorem select?_of_earlier (earlier : ∀ item ∈ q.entries, time item < target) :
    q.select? target =
      if 1 ≤ q.entries.length then some (q.entries.length - 1) else none := by
  have all : q.earlier target = q.entries := by
    rw [MatchQueue.earlier, List.takeWhile_eq_self_iff]
    simpa using earlier
  simp only [select?, all, List.drop_length]
  cases last : q.entries.getLast? with
  | none =>
    rw [List.getLast?_eq_none_iff.1 last]
    rfl
  | some item =>
    have some_waits : 1 ≤ q.entries.length := List.length_pos_of_mem (List.mem_of_getLast? last)
    rw [if_pos some_waits]

/-- **The pass does not go wrong, and selects what is to be selected.**  All that it has left is
earlier than the target. -/
theorem scanFrom_eq {before rest : List α} (entries_eq : q.entries = before ++ rest)
    (earlier : ∀ item ∈ before, time item < target) :
    scanFrom q.window target before.length (before.getLast?.map time) rest =
      .ok (q.select? target) := by
  induction rest generalizing before with
  | nil =>
    rw [List.append_nil] at entries_eq
    subst entries_eq
    rw [select?_of_earlier earlier]
    rfl
  | cons item rest ih =>
    rw [scanFrom]
    by_cases passed : time item < target
    · rw [if_neg (by omega), if_neg (by omega)]
      have earlier : ∀ other ∈ before ++ [item], time other < target := by
        intro other member
        rcases List.mem_append.1 member with old | new
        · exact earlier other old
        · exact List.mem_singleton.1 new ▸ passed
      have next := ih (by rw [entries_eq, List.append_assoc]; rfl) earlier
      rwa [List.length_append, List.getLast?_concat] at next
    · have due : target ≤ time item := by omega
      rw [select?_of_due entries_eq earlier due]
      by_cases hit : time item = target
      · rw [if_pos hit]
        cases last : before.getLast? with
        | none => simp [within, hit, List.getLast?_eq_none_iff.1 last]
        | some previous =>
          have := earlier previous (List.mem_of_getLast? last)
          have nearer : time item - target < target - time previous := by omega
          have near : time item - target ≤ q.window := by omega
          simp only [within, if_pos nearer, if_pos near]
      · have later : target < time item := by omega
        rw [if_neg hit, if_pos later, difference_of_le due]
        cases last : before.getLast? with
        | none =>
          rw [List.getLast?_eq_none_iff.1 last]
          rfl
        | some previous =>
          -- What the pass has left is earlier, and there is something that it has left.
          have member : previous ∈ before := List.mem_of_getLast? last
          have behind : time previous ≤ target := Nat.le_of_lt (earlier previous member)
          have back : 1 ≤ before.length := List.length_pos_of_mem member
          simp only [Option.map_some, difference_of_le behind, difference_of_le back]
          by_cases nearer : time item - target < target - time previous
          · simp only [bind, Except.bind, if_pos nearer, within]
          · simp only [bind, Except.bind, if_neg nearer, within]

/-! ## Positions -/

/-- The first entry that is not earlier than a target: all in front of it are. -/
structure Due (q : MatchQueue α) (target i : Nat) (item : α) : Prop where
  here : q.entries[i]? = some item
  due : target ≤ time item
  earlier : ∀ j < i, ∀ other, q.entries[j]? = some other → time other < target

theorem Due.exists_split {i : Nat} {item : α} (first : q.Due target i item) :
    ∃ before later, q.entries = before ++ item :: later ∧ before.length = i ∧
      ∀ other ∈ before, time other < target := by
  obtain ⟨inside, here⟩ := List.getElem?_eq_some_iff.1 first.here
  refine ⟨q.entries.take i, q.entries.drop (i + 1), ?_, ?_, ?_⟩
  · rw [← here, List.getElem_cons_drop, List.take_append_drop]
  · rw [List.length_take]
    omega
  · intro other member
    obtain ⟨j, bound, rfl⟩ := List.mem_take_iff_getElem.1 member
    exact first.earlier j (by omega) _ (List.getElem?_eq_getElem (by omega))

theorem due_of_split {before later : List α} {item : α}
    (entries_eq : q.entries = before ++ item :: later)
    (earlier : ∀ other ∈ before, time other < target) (due : target ≤ time item) :
    q.Due target before.length item where
  here := by
    rw [entries_eq, List.getElem?_append_right (Nat.le_refl _), Nat.sub_self]
    rfl
  due := due
  earlier := by
    intro j front other there
    rw [entries_eq, List.getElem?_append_left front] at there
    exact earlier other (List.mem_of_getElem? there)

/-- Either all entries are earlier than a target, or there is a first one that is not. -/
theorem earlier_or_due (q : MatchQueue α) (target : Nat) :
    (∀ item ∈ q.entries, time item < target) ∨ ∃ i item, q.Due target i item := by
  obtain ⟨picked, left, pick⟩ := exists_pick q.window target q.entries
  generalize entries_eq : q.entries = entries at pick
  cases pick with
  | empty => exact .inl (List.forall_mem_nil _)
  | newest earlier => exact .inl earlier
  | ahead earlier due | missed earlier due =>
    exact .inr ⟨_, _, due_of_split entries_eq earlier due⟩
  | behind earlier due =>
    rw [List.append_cons] at entries_eq
    exact .inr ⟨_, _, due_of_split entries_eq earlier due⟩

/-- Which position is selected at a target. -/
structure Selection (q : MatchQueue α) (target : Nat) (selected : Option Nat) : Prop where
  /-- when all entries are earlier, it is the last one, and none only if there is none -/
  lagging : (∀ item ∈ q.entries, time item < target) →
    selected = if q.entries = [] then none else some (q.entries.length - 1)
  /-- the first one that is not earlier, if it is at the target -/
  hit : ∀ i item, q.Due target i item → time item = target → selected = some i
  /-- if it is later and in front of all, it is selected if it is near -/
  leading : ∀ item, q.Due target 0 item → target < time item →
    selected = if Nat.dist (time item) target ≤ q.window then some 0 else none
  /-- if it is later and has a predecessor, the nearer of them is, and the predecessor if both are
  equally near, if it is near -/
  between : ∀ i previous next, q.entries[i]? = some previous → q.Due target (i + 1) next →
    target < time next →
    selected =
      if Nat.dist (time next) target < Nat.dist (time previous) target then
        if Nat.dist (time next) target ≤ q.window then some (i + 1) else none
      else if Nat.dist (time previous) target ≤ q.window then some i else none

theorem selection (q : MatchQueue α) (target : Nat) : q.Selection target (q.select? target) where
  lagging := by
    intro earlier
    rw [select?_of_earlier earlier]
    cases q.entries with
    | nil => rfl
    | cons => simp
  hit := by
    intro i item first at_target
    obtain ⟨before, later, entries_eq, rfl, earlier⟩ := first.exists_split
    rw [select?_of_due entries_eq earlier first.due]
    cases last : before.getLast? with
    | none => simp [within, at_target, List.getLast?_eq_none_iff.1 last]
    | some previous =>
      have := earlier previous (List.mem_of_getLast? last)
      simp only [within]
      rw [if_pos (by omega), if_pos (by omega)]
  leading := by
    intro item first _
    obtain ⟨before, later, entries_eq, front, earlier⟩ := first.exists_split
    obtain rfl := List.length_eq_zero_iff.1 front
    rw [select?_of_due entries_eq earlier first.due, Nat.dist_eq_sub_of_le_right first.due]
    rfl
  between := by
    intro i previous next there first _
    obtain ⟨before, later, entries_eq, length_eq, earlier⟩ := first.exists_split
    have last : before.getLast? = some previous := by
      rw [List.getLast?_eq_getElem?, length_eq, Nat.add_sub_cancel, ← there, entries_eq,
        List.getElem?_append_left (by omega)]
    have past : time previous ≤ target := Nat.le_of_lt (first.earlier i (by omega) previous there)
    rw [select?_of_due entries_eq earlier first.due, Nat.dist_eq_sub_of_le_right first.due,
      Nat.dist_eq_sub_of_le past, last, length_eq]
    rfl

/-- What is selected is the last position, when all are earlier, or the first that is not earlier,
or the one in front of that. -/
theorem cases_of_select? {position : Nat} (selected : q.select? target = some position) :
    (∀ item ∈ q.entries, time item < target) ∧ position + 1 = q.entries.length ∨
    (∃ item, q.Due target position item) ∨
    ∃ previous next, q.entries[position]? = some previous ∧ q.Due target (position + 1) next := by
  have spec := selection q target
  rw [selected] at spec
  rcases earlier_or_due q target with earlier | ⟨i, item, first⟩
  · have last := spec.lagging earlier
    split at last
    · cases last
    · next some_waits =>
      have := List.length_pos_iff.2 some_waits
      cases last
      exact .inl ⟨earlier, by omega⟩
  · by_cases at_target : time item = target
    · cases spec.hit i item first at_target
      exact .inr (.inl ⟨item, first⟩)
    · have later : target < time item := by
        have := first.due
        omega
      cases i with
      | zero =>
        have alone := spec.leading item first later
        split at alone
        · cases alone
          exact .inr (.inl ⟨item, first⟩)
        · cases alone
      | succ i =>
        have inside : i < q.entries.length := by
          have := (List.getElem?_eq_some_iff.1 first.here).1
          omega
        have there := List.getElem?_eq_getElem inside
        have nearer := spec.between i _ item there first later
        split at nearer <;> split at nearer <;> cases nearer
        · exact .inr (.inl ⟨item, first⟩)
        · exact .inr (.inr ⟨_, item, there, first⟩)

theorem lt_length_of_select? {position : Nat} (selected : q.select? target = some position) :
    position < q.entries.length := by
  rcases cases_of_select? selected with ⟨-, last⟩ | ⟨item, first⟩ | ⟨previous, -, there, -⟩
  · omega
  · exact (List.getElem?_eq_some_iff.1 first.here).1
  · exact (List.getElem?_eq_some_iff.1 there).1

theorem answer_eq (q : MatchQueue α) (target : Nat) :
    (q.align target).2 = (q.select? target).bind (q.entries[·]?) := by
  rw [align_eq, takeOut]
  cases q.select? target <;> rfl

/-- The pass answers what `align` answers. -/
theorem scan_eq (q : MatchQueue α) (target : Nat) : q.scan target = .ok (q.align target).2 := by
  have entries_eq : q.entries = [] ++ q.entries := rfl
  have pass : scanFrom q.window target 0 none q.entries = .ok (q.select? target) :=
    scanFrom_eq entries_eq (List.forall_mem_nil _)
  rw [scan, pass, answer_eq]
  cases selected : q.select? target with
  | none => rfl
  | some position =>
    have there := List.getElem?_eq_getElem (lt_length_of_select? selected)
    simp only [bind, Except.bind, fetch, there, Option.bind_some]
    rfl

/-- What is taken out is near the target, or it is the newest of entries that are all earlier. -/
theorem near_or_newest {item : α} (answered : (q.align target).2 = some item) :
    Nat.dist (time item) target ≤ q.window ∨
      q.entries.getLast? = some item ∧ ∀ other ∈ q.entries, time other < target := by
  have pick := pick_align q target
  rw [answered] at pick
  generalize q.entries = entries, (q.takeOut target).1.entries = left at pick
  cases pick with
  | newest earlier => exact .inr ⟨List.getLast?_concat, earlier⟩
  | ahead earlier due nearer near =>
    rw [Nat.dist_eq_sub_of_le_right due]
    exact .inl near
  | behind earlier due nearer near =>
    have past : time item < target := earlier item (by simp)
    rw [Nat.dist_eq_sub_of_le (Nat.le_of_lt past)]
    exact .inl near

/-- **What `align` selects.**  Whatever the order of arrival, the window and the target, one pass
over the entries with all its differences and positions checked does not go wrong, and finds what
`align` takes out.  It is the entry at the selected position, and that is the first entry that is
not earlier than the target, or the one in front of it, whichever is nearer, if it is near; or it is
the last entry, when all are earlier. -/
theorem selection_law (q : MatchQueue α) (target : Nat) :
    q.scan target = .ok (q.align target).2 ∧
    ((∀ item ∈ q.entries, time item < target) ∨ ∃ i item, q.Due target i item) ∧
    q.Selection target (q.select? target) ∧
    (∀ position, q.select? target = some position → position < q.entries.length) ∧
    (q.align target).2 = (q.select? target).bind (q.entries[·]?) ∧
    ∀ item, (q.align target).2 = some item →
      Nat.dist (time item) target ≤ q.window ∨
      q.entries.getLast? = some item ∧ ∀ other ∈ q.entries, time other < target :=
  ⟨scan_eq q target, earlier_or_due q target, selection q target,
    fun _ => lt_length_of_select?, answer_eq q target, fun _ => near_or_newest⟩

end MatchQueue
end Lookout
