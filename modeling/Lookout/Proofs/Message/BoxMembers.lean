import Lookout.Detection
import Lookout.Proofs.Json.Text
import Lookout.Proofs.Json.Values

/-!
# The members of a box

A field of a box has up to two names, and what is written under any of them fills it, once; every
other member is passed over.  So what a walk over the members makes of the fields depends on what
is written under their names and on nothing else (`foldMembers_keyed_eq_ok_iff`).

## Main definitions

* `Json.under`, `Json.given` — what is written under some names.
* `Json.Takes` — what a walk leaves in one field.
* `Detection.Filled` — what a walk leaves in all fields of a box.
-/

namespace Lookout

open Json (Tree)

namespace Json

/-! ## What is written under some names -/

/-- The values that are written under some names. -/
def under {α : Type} (names : List String) (members : List (String × α)) : List α :=
  (members.filter fun member => names.contains member.1).map (·.2)

/-- The first value that is written under some names, unless it is `null`. -/
def given (names : List String) (members : List (String × Tree)) : Option Tree :=
  match under names members with
  | [] | .null :: _ => none
  | value :: _ => some value

variable {α : Type}

theorem under_append (names : List String) (members others : List (String × α)) :
    under names (members ++ others) = under names members ++ under names others := by
  rw [under, List.filter_append, List.map_append]
  rfl

theorem under_eq_nil {names : List String} {members : List (String × α)}
    (apart : ∀ member ∈ members, member.1 ∉ names) : under names members = [] := by
  rw [under, List.map_eq_nil_iff, List.filter_eq_nil_iff]
  intro member among
  simpa using apart member among

/-- What is written once is found in any order. -/
theorem under_eq_of_perm {names : List String} {members others : List (String × α)}
    (perm : members.Perm others) (once : (under names others).length ≤ 1) :
    under names members = under names others := by
  have moved : (under names members).Perm (under names others) := (perm.filter _).map _
  match found : under names others with
  | [] => rwa [found, List.perm_nil] at moved
  | [value] => rwa [found, List.perm_singleton] at moved
  | _ :: _ :: _ => simp [found] at once

/-- What a walk leaves in a field, given the values that are written under its names: what was in it
before or, if there is one value, that value decoded; a field is not filled twice. -/
def Takes (decode : Tree → Except Fault α) : List Tree → Option α → Option α → Prop
  | [], old, new => new = old
  | [value], old, new => old = none ∧ ∃ a, decode value = .ok a ∧ new = some a
  | _ :: _ :: _, _, _ => False

theorem Takes.length_le {decode : Tree → Except Fault α} {values : List Tree} {old new : Option α}
    (takes : Takes decode values old new) : values.length ≤ 1 := by
  match values, takes with
  | [], _ => exact Nat.zero_le _
  | [_], _ => exact Nat.le_refl _

theorem given_eq_some_iff {names : List String} {members : List (String × Tree)} {value : Tree} :
    given names members = some value ↔
      ∃ rest, under names members = value :: rest ∧ value ≠ .null := by
  rw [given]
  split
  · next none => simp [none]
  · next null =>
    simp only [null, List.cons.injEq]
    constructor
    · rintro ⟨⟩
    · rintro ⟨_, ⟨rfl, -⟩, there⟩
      exact absurd rfl there
  · next first rest there first_eq =>
    simp only [first_eq, Option.some.injEq, List.cons.injEq]
    constructor
    · rintro rfl
      exact ⟨rest, ⟨rfl, rfl⟩, there⟩
    · rintro ⟨_, ⟨rfl, -⟩, -⟩
      rfl

section
variable {decode : Tree → Except Fault α} {names : List String} {members : List (String × Tree)}
  {new : Option (Option α)} (takes : Takes (Tree.optional decode) (under names members) none new)
include takes

/-- What is given is decoded. -/
theorem Takes.join_of_given {value : Tree} (found : given names members = some value) :
    ∃ a, Tree.optional decode value = .ok (some a) ∧ new.join = some a := by
  obtain ⟨rest, under_eq, there⟩ := given_eq_some_iff.1 found
  rw [under_eq] at takes
  cases rest with
  | nil =>
    obtain ⟨-, a, read, rfl⟩ := takes
    cases a with
    | none => exact absurd (optional_eq_none_iff.1 read) there
    | some a => exact ⟨a, read, rfl⟩
  | cons => exact takes.elim

/-- Where nothing is given, nothing is filled in. -/
theorem Takes.join_of_not_given (missing : given names members = none) : new.join = none := by
  match under_eq : under names members with
  | [] =>
    rw [under_eq] at takes
    exact congrArg Option.join takes
  | [value] =>
    rw [under_eq] at takes
    obtain ⟨-, a, read, rfl⟩ := takes
    cases a with
    | none => rfl
    | some a =>
      have found := given_eq_some_iff.2 ⟨[], under_eq, (optional_eq_some_iff.1 read).1⟩
      cases missing.symm.trans found
  | _ :: _ :: _ =>
    rw [under_eq] at takes
    exact takes.elim

end

theorem takes_cons_iff {decode : Tree → Except Fault α} {value : Tree} {values : List Tree}
    {old new : Option α} :
    Takes decode (value :: values) old new ↔
      ∃ mid, Takes decode [value] old mid ∧ Takes decode values mid new := by
  cases values with
  | nil =>
    constructor
    · intro takes
      exact ⟨new, takes, rfl⟩
    · rintro ⟨mid, takes, rfl⟩
      exact takes
  | cons second values =>
    constructor
    · exact False.elim
    · rintro ⟨_, ⟨-, a, -, rfl⟩, later⟩
      cases values with
      | nil => cases later.1
      | cons => exact later

theorem under_cons_of_mem {names : List String} {name : String} (own : name ∈ names) (value : α)
    (rest : List (String × α)) :
    under names ((name, value) :: rest) = value :: under names rest := by
  rw [under, List.filter_cons_of_pos (by simpa using own)]
  rfl

theorem under_cons_of_not_mem {names : List String} {name : String} (other : name ∉ names)
    (value : α) (rest : List (String × α)) :
    under names ((name, value) :: rest) = under names rest := by
  rw [under, List.filter_cons_of_neg (by simpa using other)]
  rfl

theorem takes_under_cons_iff {decode : Tree → Except Fault α} (names : List String)
    (member : String × Tree) (rest : List (String × Tree)) {old new : Option α} :
    Takes decode (under names (member :: rest)) old new ↔
      ∃ mid, Takes decode (under names [member]) old mid ∧
        Takes decode (under names rest) mid new := by
  obtain ⟨name, value⟩ := member
  by_cases own : name ∈ names
  · rw [under_cons_of_mem own, under_cons_of_mem own]
    exact takes_cons_iff
  · rw [under_cons_of_not_mem own, under_cons_of_not_mem own]
    constructor
    · intro takes
      exact ⟨old, rfl, takes⟩
    · rintro ⟨_, rfl, takes⟩
      exact takes

theorem takes_under_singleton_iff {decode : Tree → Except Fault α} {names : List String}
    {name : String} {value : Tree} {old new : Option α} (field : String) (own : name ∈ names) :
    Takes decode (under names [(name, value)]) old new ↔
      once field old (decode value) = .ok new := by
  rw [under_cons_of_mem own, once_eq_ok_iff]
  exact Iff.rfl

theorem takes_under_of_not_mem {decode : Tree → Except Fault α} {names : List String}
    {name : String} {value : Tree} {old new : Option α} (other : name ∉ names) :
    Takes decode (under names [(name, value)]) old new ↔ new = old := by
  rw [under_cons_of_not_mem other]
  rfl

theorem skip_eq_ok_iff {tree : Tree} {done : Unit} :
    tree.skip = .ok done ↔ tree.readable = true := by
  rw [Tree.skip]
  cases tree.readable <;> simp

end Json

namespace Detection

/-! ## The walk over the members -/

/-- The names of all fields. -/
def known : List String :=
  ["bbox", "name", "class_name", "label", "id", "class_id", "score", "prob"]

/-- What a walk over members makes of the fields read so far. -/
@[mk_iff]
structure Filled (origin : Json.Origin) (room : Nat) (old : Draft)
    (members : List (String × Tree)) (new : Draft) : Prop where
  bbox : Json.Takes (bboxOf origin) (Json.under ["bbox"] members) old.bbox new.bbox
  name : Json.Takes nameOf (Json.under ["name", "class_name"] members) old.name new.name
  label : Json.Takes (labelOf room) (Json.under ["label"] members) old.label new.label
  id : Json.Takes idOf (Json.under ["id", "class_id"] members) old.id new.id
  score : Json.Takes Tree.single (Json.under ["score", "prob"] members) old.score new.score
  passed : ∀ member ∈ members, member.1 ∉ known → member.2.readable = true

variable {origin : Json.Origin} {room : Nat} {old new : Draft}

theorem filled_nil_iff : Filled origin room old [] new ↔ new = old := by
  constructor
  · rintro ⟨bbox, name, label, id, score, -⟩
    cases new
    cases old
    simp_all [Json.Takes, Json.under]
  · rintro rfl
    exact ⟨rfl, rfl, rfl, rfl, rfl, List.forall_mem_nil _⟩

theorem filled_cons_iff {member : String × Tree} {rest : List (String × Tree)} :
    Filled origin room old (member :: rest) new ↔
      ∃ mid, Filled origin room old [member] mid ∧ Filled origin room mid rest new := by
  constructor
  · rintro ⟨bbox, name, label, id, score, passed⟩
    obtain ⟨_, bbox, bbox'⟩ := (Json.takes_under_cons_iff _ _ _).1 bbox
    obtain ⟨_, name, name'⟩ := (Json.takes_under_cons_iff _ _ _).1 name
    obtain ⟨_, label, label'⟩ := (Json.takes_under_cons_iff _ _ _).1 label
    obtain ⟨_, id, id'⟩ := (Json.takes_under_cons_iff _ _ _).1 id
    obtain ⟨_, score, score'⟩ := (Json.takes_under_cons_iff _ _ _).1 score
    obtain ⟨first, later⟩ := List.forall_mem_cons.1 passed
    exact ⟨⟨_, _, _, _, _⟩,
      ⟨bbox, name, label, id, score, List.forall_mem_singleton.2 first⟩,
      ⟨bbox', name', label', id', score', later⟩⟩
  · rintro ⟨mid, first, later⟩
    exact ⟨(Json.takes_under_cons_iff _ _ _).2 ⟨_, first.bbox, later.bbox⟩,
      (Json.takes_under_cons_iff _ _ _).2 ⟨_, first.name, later.name⟩,
      (Json.takes_under_cons_iff _ _ _).2 ⟨_, first.label, later.label⟩,
      (Json.takes_under_cons_iff _ _ _).2 ⟨_, first.id, later.id⟩,
      (Json.takes_under_cons_iff _ _ _).2 ⟨_, first.score, later.score⟩,
      List.forall_mem_cons.2 ⟨List.forall_mem_singleton.1 first.passed, later.passed⟩⟩

theorem member_eq_ok_iff {name : String} {value : Tree} :
    member origin room old name value = .ok new ↔ Filled origin room old [(name, value)] new := by
  rw [member, filled_iff, List.forall_mem_singleton]
  by_cases bbox : name = "bbox"
  · subst bbox
    simp (disch := decide) only [if_pos, bind_eq_ok_iff, Json.takes_under_of_not_mem]
    rw [Json.takes_under_singleton_iff "bbox" (by decide)]
    constructor
    · rintro ⟨slot, read, done⟩
      cases done
      exact ⟨read, rfl, rfl, rfl, rfl, fun other => absurd (by decide) other⟩
    · rintro ⟨read, name, label, id, score, -⟩
      exact ⟨_, read, by rw [← name, ← label, ← id, ← score]⟩
  rw [if_neg bbox]
  by_cases named : name = "name" ∨ name = "class_name"
  · rw [if_pos named, bind_eq_ok_iff]
    rcases named with rfl | rfl
    all_goals
      simp (disch := decide) only [Json.takes_under_of_not_mem]
      rw [Json.takes_under_singleton_iff "name" (by decide)]
      constructor
      · rintro ⟨slot, read, done⟩
        cases done
        exact ⟨rfl, read, rfl, rfl, rfl, fun other => absurd (by decide) other⟩
      · rintro ⟨bbox, read, label, id, score, -⟩
        exact ⟨_, read, by rw [← bbox, ← label, ← id, ← score]⟩
  rw [if_neg named]
  by_cases labelled : name = "label"
  · subst labelled
    simp (disch := decide) only [if_pos, bind_eq_ok_iff, Json.takes_under_of_not_mem]
    rw [Json.takes_under_singleton_iff "label" (by decide)]
    constructor
    · rintro ⟨slot, read, done⟩
      cases done
      exact ⟨rfl, rfl, read, rfl, rfl, fun other => absurd (by decide) other⟩
    · rintro ⟨bbox, name, read, id, score, -⟩
      exact ⟨_, read, by rw [← bbox, ← name, ← id, ← score]⟩
  rw [if_neg labelled]
  by_cases numbered : name = "id" ∨ name = "class_id"
  · rw [if_pos numbered, bind_eq_ok_iff]
    rcases numbered with rfl | rfl
    all_goals
      simp (disch := decide) only [Json.takes_under_of_not_mem]
      rw [Json.takes_under_singleton_iff "id" (by decide)]
      constructor
      · rintro ⟨slot, read, done⟩
        cases done
        exact ⟨rfl, rfl, rfl, read, rfl, fun other => absurd (by decide) other⟩
      · rintro ⟨bbox, name, label, read, score, -⟩
        exact ⟨_, read, by rw [← bbox, ← name, ← label, ← score]⟩
  rw [if_neg numbered]
  by_cases scored : name = "score" ∨ name = "prob"
  · rw [if_pos scored, bind_eq_ok_iff]
    rcases scored with rfl | rfl
    all_goals
      simp (disch := decide) only [Json.takes_under_of_not_mem]
      rw [Json.takes_under_singleton_iff "score" (by decide)]
      constructor
      · rintro ⟨slot, read, done⟩
        cases done
        exact ⟨rfl, rfl, rfl, rfl, read, fun other => absurd (by decide) other⟩
      · rintro ⟨bbox, name, label, id, read, -⟩
        exact ⟨_, read, by rw [← bbox, ← name, ← label, ← id]⟩
  -- a member of any other name is passed over
  have other : name ∉ known := by simp_all [known]
  rw [if_neg scored, bind_eq_ok_iff, Json.takes_under_of_not_mem (by simpa using bbox),
    Json.takes_under_of_not_mem (by simpa using named),
    Json.takes_under_of_not_mem (by simpa using labelled),
    Json.takes_under_of_not_mem (by simpa using numbered),
    Json.takes_under_of_not_mem (by simpa using scored)]
  constructor
  · rintro ⟨_, skipped, done⟩
    cases done
    exact ⟨rfl, rfl, rfl, rfl, rfl, fun _ => Json.skip_eq_ok_iff.1 skipped⟩
  · rintro ⟨bbox, name, label, id, score, readable⟩
    refine ⟨(), Json.skip_eq_ok_iff.2 (readable other), ?_⟩
    cases old
    cases new
    cases bbox
    cases name
    cases label
    cases id
    cases score
    rfl

/-- **A walk over named members** fills each field from what is written under its names. -/
theorem foldMembers_keyed_eq_ok_iff {members : List (String × Tree)} :
    Json.foldMembers (member origin room) old (Tree.keyed members) = .ok new ↔
      Filled origin room old members new := by
  induction members generalizing old with
  | nil =>
    rw [filled_nil_iff]
    exact ⟨fun done => (Except.ok.inj done).symm, fun same => congrArg Except.ok same.symm⟩
  | cons first rest ih =>
    rw [filled_cons_iff, Tree.keyed, List.map_cons, Json.foldMembers, bind_eq_ok_iff]
    simp only [member_eq_ok_iff]
    exact exists_congr fun mid => and_congr_right fun _ => ih

/-- A walk gets to its end only over members with names. -/
theorem exists_keyed {members : List (Tree × Tree)}
    (read : Json.foldMembers (member origin room) old members = .ok new) :
    ∃ named, members = Tree.keyed named := by
  induction members generalizing old with
  | nil => exact ⟨[], rfl⟩
  | cons first rest ih =>
    obtain ⟨key, value⟩ := first
    cases key with
    | string name =>
      cases name with
      | none => cases read
      | some name =>
        obtain ⟨mid, -, later⟩ := bind_eq_ok_iff.1 read
        obtain ⟨named, rfl⟩ := ih later
        exact ⟨(name, value) :: named, rfl⟩
    | null | bool | number | array | object | broken => cases read

theorem ofTree_keyed_eq_ok_iff {members : List (String × Tree)} {d : Detection} :
    ofTree origin room (.object (Tree.keyed members)) = .ok d ↔
      ∃ draft bbox, Filled origin room .empty members draft ∧ draft.bbox = some bbox ∧
        draft.finish bbox = d := by
  simp only [ofTree, bind_eq_ok_iff, foldMembers_keyed_eq_ok_iff, Json.required_eq_ok_iff,
    Except.ok.injEq]
  constructor
  · rintro ⟨draft, filled, bbox, there, done⟩
    exact ⟨draft, bbox, filled, there, done⟩
  · rintro ⟨draft, bbox, filled, there, done⟩
    exact ⟨draft, filled, bbox, there, done⟩

/-! ## The values of the fields -/

/-- Numbers are read one after another. -/
theorem exists_take {corners : List Tree} {xs : List Float32}
    (read : List.Forall₂ (fun corner x => corner.single = .ok x) corners xs) (wanted : String)
    (index : Nat) {count : Nat} (length_eq : xs.length = count) :
    ∃ v : Vector Float32 count,
      Tree.take Tree.single wanted index count corners = .ok (v, []) ∧ v.toList = xs := by
  induction read generalizing index count with
  | nil =>
    subst length_eq
    exact ⟨_, rfl, rfl⟩
  | @cons corner x corners xs first rest ih =>
    cases count with
    | zero => cases length_eq
    | succ count =>
      obtain ⟨v, read, list_eq⟩ := ih (index + 1) (Nat.succ.inj length_eq)
      refine ⟨⟨(x :: v.toList).toArray, by simp⟩, ?_, congrArg (x :: ·) list_eq⟩
      rw [Tree.take, first, read]
      rfl

theorem bboxOf_array {corners : List Tree} {bbox : Vector Float32 4}
    (read : List.Forall₂ (fun corner x => corner.single = .ok x) corners bbox.toList) :
    bboxOf origin (.array corners) = .ok bbox := by
  obtain ⟨v, taken, list_eq⟩ := exists_take read ("an array of length " ++ toString 4) 0
    bbox.length_toList
  obtain rfl : v = bbox := Vector.toList_inj.1 list_eq
  rw [bboxOf, Tree.fixed, taken]
  rfl

variable {value : Tree}

theorem nameOf_eq_some_iff {s : String} :
    nameOf value = .ok (some s) ↔ value = .string (some s) := by
  rw [nameOf, Json.optional_eq_some_iff, Json.text_eq_ok_iff]
  apply and_iff_right_of_imp
  rintro rfl
  rintro ⟨⟩

theorem idOf_eq_some_iff {n : Nat} :
    idOf value = .ok (some n) ↔ value = .number (some (.whole n)) ∧ n < UInt32.size := by
  rw [idOf, Json.optional_eq_some_iff, Json.word_eq_ok_iff]
  apply and_iff_right_of_imp
  rintro ⟨rfl, -⟩
  rintro ⟨⟩

/-- A label is a class number or a name. -/
theorem labelOf_eq_some_iff {label : Label} :
    labelOf room value = .ok (some label) ↔
      (∃ n : Nat, value = .number (some (.whole n)) ∧ n < UInt32.size ∧ label = .id n) ∨
      ∃ s, value = .string (some s) ∧ label = .text s := by
  rw [labelOf, Json.optional_eq_some_iff]
  constructor
  · rintro ⟨-, read⟩
    split at read
    · cases read
    · next n found =>
      split at read
      · next within =>
        cases read
        have whole : ((n.toNat : Nat) : Int) = n := Int.toNat_of_nonneg within.1
        exact .inl ⟨n.toNat, by rw [whole]; exact Json.eq_number_of_value? found, by omega, rfl⟩
      · cases read
    · next s found =>
      cases read
      exact .inr ⟨s, Json.eq_string_of_value? found, rfl⟩
    · cases read
  · rintro (⟨n, rfl, small, rfl⟩ | ⟨s, rfl, rfl⟩)
    · refine ⟨by rintro ⟨⟩, ?_⟩
      have within : (0 : Int) ≤ n ∧ (n : Int) < UInt32.size :=
        ⟨Int.natCast_nonneg n, Int.ofNat_lt.2 small⟩
      simp only [Tree.value?, Option.map_some, if_pos within, Int.toNat_natCast]
    · exact ⟨by rintro ⟨⟩, rfl⟩

end Detection
end Lookout
