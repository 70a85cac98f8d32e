import Mathlib.Data.List.Perm.Basic
import Lookout.Proofs.Message.BoxMembers

/-!
# The shapes of a box

The devices write a box in two shapes, and the console writes it in a third.  Each fills the fields
differently, but the fields make the same box (`finish_draft`).  So the members of a shape are read
as the box they hold, in any order and whatever else is written (`ofTree_of_holds`), and so is a
text that is put together of them (`ofText_of_perm`), if its numbers are read back.

The class name and the class number of a box that has been read are each found under names of their
own, and else in the label, which holds one or the other (`resolved_of_ofTree`).

## Main definitions

* `Detection.Shape` — the three shapes.
* `Detection.Holds` — members that hold a box.
* `Detection.Resolved` — where the class of a box comes from.
-/

namespace Lookout

open Json (Tree Written)

namespace Detection

variable {origin : Json.Origin} {room : Nat} {old new : Draft}

/-! ## The shapes -/

/-- The shapes in which a box is written: two by the devices, and the console's own. -/
inductive Shape where
  | yolo
  | fcos
  | own

/-- The members of a shape. -/
def Shape.members {α : Type} (shape : Shape) (bbox label id score : α) : List (String × α) :=
  match shape with
  | yolo => [("bbox", bbox), ("score", score), ("id", id), ("name", label)]
  | fcos => [("bbox", bbox), ("prob", score), ("label", id), ("class_name", label)]
  | own => [("bbox", bbox), ("label", label), ("class_id", id), ("score", score)]

/-- A class number as it is written; `null` if there is none. -/
def idTree : Option Nat → Tree
  | none => .null
  | some n => .number (some (.whole n))

/-- The text of a class number. -/
def idText : Option Nat → String
  | none => "null"
  | some n => toString n

/-- A shape has members for fields only. -/
theorem Shape.name_mem_known {α : Type} (shape : Shape) (bbox label id score : α) :
    ∀ member ∈ shape.members bbox label id score, member.1 ∈ known := by
  cases shape <;> simp [Shape.members, known]

/-- The fields that a shape fills. -/
def Shape.draft (d : Detection) : Shape → Draft
  | yolo => ⟨some d.bbox, some (some d.label), none, some d.classId, some d.score⟩
  | fcos => ⟨some d.bbox, some (some d.label), some (d.classId.map .id), none, some d.score⟩
  | own => ⟨some d.bbox, none, some (some (.text d.label)), some d.classId, some d.score⟩

/-- Whatever the shape, the fields make the same box. -/
theorem finish_draft (d : Detection) (shape : Shape) : (shape.draft d).finish d.bbox = d := by
  obtain ⟨bbox, label, classId, score⟩ := d
  cases shape <;> cases classId <;> rfl

section
variable {d : Detection} {corners : List Tree} {score : Tree}

theorem idOf_idTree (small : ∀ n ∈ d.classId, n < UInt32.size) :
    idOf (idTree d.classId) = .ok d.classId := by
  cases class_eq : d.classId with
  | none => rfl
  | some n => exact idOf_eq_some_iff.2 ⟨rfl, small n class_eq⟩

theorem labelOf_idTree (small : ∀ n ∈ d.classId, n < UInt32.size) :
    labelOf room (idTree d.classId) = .ok (d.classId.map .id) := by
  cases class_eq : d.classId with
  | none => rfl
  | some n => exact labelOf_eq_some_iff.2 (.inl ⟨n, rfl, small n class_eq, rfl⟩)

/-- The members of a shape fill its fields. -/
theorem filled_shape (shape : Shape) (small : ∀ n ∈ d.classId, n < UInt32.size)
    (read : List.Forall₂ (fun corner x => corner.single = .ok x) corners d.bbox.toList)
    (read_score : score.single = .ok d.score) :
    Filled origin room .empty
      (shape.members (.array corners) (.string (some d.label)) (idTree d.classId) score)
      (shape.draft d) := by
  have bbox : bboxOf origin (.array corners) = .ok d.bbox := bboxOf_array read
  have name : nameOf (.string (some d.label)) = .ok (some d.label) := rfl
  have label : labelOf room (.string (some d.label)) = .ok (some (.text d.label)) := rfl
  have id := idOf_idTree small
  have labelId : labelOf room (idTree d.classId) = .ok (d.classId.map .id) := labelOf_idTree small
  have passed : ∀ member ∈ shape.members (.array corners) (.string (some d.label))
      (idTree d.classId) score, member.1 ∉ known → member.2.readable = true := by
    intro member among other
    exact absurd (shape.name_mem_known _ _ _ _ member among) other
  cases shape with
  | yolo =>
    exact ⟨⟨rfl, _, bbox, rfl⟩, ⟨rfl, _, name, rfl⟩, rfl, ⟨rfl, _, id, rfl⟩,
      ⟨rfl, _, read_score, rfl⟩, passed⟩
  | fcos =>
    exact ⟨⟨rfl, _, bbox, rfl⟩, ⟨rfl, _, name, rfl⟩, ⟨rfl, _, labelId, rfl⟩, rfl,
      ⟨rfl, _, read_score, rfl⟩, passed⟩
  | own =>
    exact ⟨⟨rfl, _, bbox, rfl⟩, rfl, ⟨rfl, _, label, rfl⟩, ⟨rfl, _, id, rfl⟩,
      ⟨rfl, _, read_score, rfl⟩, passed⟩

end

/-! ## Other members, in any order -/

/-- A field is filled from the members of its names alone, in whatever order. -/
theorem takes_of_perm {α : Type} {decode : Tree → Except Json.Fault α} {names : List String}
    {before after : Option α} {others extras members : List (String × Tree)}
    (takes : Json.Takes decode (Json.under names others) before after)
    (own : ∀ name ∈ names, name ∈ known) (extra : ∀ member ∈ extras, member.1 ∉ known)
    (perm : members.Perm (others ++ extras)) :
    Json.Takes decode (Json.under names members) before after := by
  have none : Json.under names extras = [] :=
    Json.under_eq_nil fun member among named => extra member among (own _ named)
  have same : Json.under names (others ++ extras) = Json.under names others := by
    rw [Json.under_append, none, List.append_nil]
  rw [Json.under_eq_of_perm perm (same ▸ takes.length_le), same]
  exact takes

theorem Filled.of_perm {others extras members : List (String × Tree)}
    (filled : Filled origin room old others new)
    (extra : ∀ member ∈ extras, member.1 ∉ known ∧ member.2.readable = true)
    (perm : members.Perm (others ++ extras)) : Filled origin room old members new := by
  have apart : ∀ member ∈ extras, member.1 ∉ known := fun member among => (extra member among).1
  refine ⟨takes_of_perm filled.bbox (by decide) apart perm,
    takes_of_perm filled.name (by decide) apart perm,
    takes_of_perm filled.label (by decide) apart perm,
    takes_of_perm filled.id (by decide) apart perm,
    takes_of_perm filled.score (by decide) apart perm, ?_⟩
  intro member among other
  rcases List.mem_append.1 (perm.mem_iff.1 among) with among | among
  · exact filled.passed member among other
  · exact (extra member among).2

/-- Members hold a box: those of a shape and any others, in any order. -/
inductive Holds (d : Detection) (members : List (String × Tree)) : Prop where
  | intro (shape : Shape) (corners : List Tree) (score : Tree) (extras : List (String × Tree))
      (read : List.Forall₂ (fun corner x => corner.single = .ok x) corners d.bbox.toList)
      (read_score : score.single = .ok d.score)
      (extra : ∀ member ∈ extras, member.1 ∉ known ∧ member.2.readable = true)
      (perm : members.Perm (shape.members (.array corners) (.string (some d.label))
        (idTree d.classId) score ++ extras))

section
variable {d : Detection} {members : List (String × Tree)}

/-- **Members that hold a box are read as it**, whatever their shape. -/
theorem ofTree_of_holds (small : ∀ n ∈ d.classId, n < UInt32.size) (holds : Holds d members) :
    ofTree origin room (.object (Tree.keyed members)) = .ok d := by
  obtain ⟨shape, corners, score, extras, read, read_score, extra, perm⟩ := holds
  have filled : Filled origin room .empty members (shape.draft d) :=
    (filled_shape shape small read read_score).of_perm extra perm
  have bbox : (shape.draft d).bbox = some d.bbox := by cases shape <;> rfl
  exact ofTree_keyed_eq_ok_iff.2 ⟨_, _, filled, bbox, finish_draft d shape⟩

/-- A text is decoded as the tree it is read as. -/
theorem ofText_eq {text : String} {tree : Tree} (read : Tree.read text = ⟨tree, false⟩)
    (decoded : ofTree .text (Json.maxDepth - 1) tree = .ok d) : ofText text = .ok d := by
  simp only [ofText, Json.decodeText, read, decoded]
  rfl

end

/-! ## Texts -/

/-- The numbers of a box are read back from what is written for them. -/
def ReadsBack (d : Detection) : Prop :=
  ∀ x ∈ d.score :: d.bbox.toList,
    Json.decodeText Tree.single (Layout.jsonSingle.writeSingle x) = .ok x

/-- The text of a number is that of a tree that is the number. -/
theorem exists_written_single {text : String} {x : Float32}
    (read : Json.decodeText Tree.single text = .ok x) :
    ∃ tree : Tree, Written text tree ∧ tree.single = .ok x := by
  rw [Json.decodeText, bind_eq_ok_iff] at read
  obtain ⟨y, decoded, done⟩ := read
  cases read_eq : Tree.read text with
  | mk tree trailing =>
    rw [read_eq] at decoded done
    cases trailing with
    | true => cases done
    | false =>
      cases done
      refine ⟨tree, ⟨?_, read_eq⟩, decoded⟩
      -- only a number is read as one
      cases tree with
      | number n =>
        cases n with
        | none => exact absurd decoded (Json.refuse_ne_ok _ _ _)
        | some n => rfl
      | null | bool | string | array | object | broken =>
        exact absurd decoded (Json.refuse_ne_ok _ _ _)

theorem exists_written_singles {write : Float32 → String} {xs : List Float32}
    (read : ∀ x ∈ xs, Json.decodeText Tree.single (write x) = .ok x) :
    ∃ trees : List Tree, List.Forall₂ Written (xs.map write) trees ∧
      List.Forall₂ (fun tree x => tree.single = .ok x) trees xs := by
  induction xs with
  | nil => exact ⟨[], .nil, .nil⟩
  | cons x xs ih =>
    obtain ⟨first, rest⟩ := List.forall_mem_cons.1 read
    obtain ⟨tree, written, decoded⟩ := exists_written_single first
    obtain ⟨trees, all_written, all_decoded⟩ := ih rest
    exact ⟨tree :: trees, .cons written all_written, .cons decoded all_decoded⟩

/-- The texts of the members of a shape. -/
def Shape.texts (d : Detection) (shape : Shape) : List (String × String) :=
  shape.members (Json.arrayText (d.bbox.toList.map Layout.jsonSingle.writeSingle))
    (Json.quote d.label) (idText d.classId) (Layout.jsonSingle.writeSingle d.score)

theorem written_idText {id : Option Nat} (small : ∀ n ∈ id, n < UInt32.size) :
    Written (idText id) (idTree id) := by
  cases id with
  | none => exact Json.written_null
  | some n => exact Json.written_nat (Nat.lt_trans (small n rfl) (by decide))

/-- A member is written with its own name. -/
def WrittenMember (text : String × String) (member : String × Tree) : Prop :=
  text.1 = member.1 ∧ Written text.2 member.2

/-- The members of a shape are written one by one. -/
theorem Shape.written {bbox label id score : Tree} {bboxText labelText idText
    scoreText : String} (shape : Shape) (bbox_written : Written bboxText bbox)
    (label_written : Written labelText label) (id_written : Written idText id)
    (score_written : Written scoreText score) :
    List.Forall₂ WrittenMember (shape.members bboxText labelText idText scoreText)
      (shape.members bbox label id score) := by
  cases shape with
  | yolo =>
    exact .cons ⟨rfl, bbox_written⟩ (.cons ⟨rfl, score_written⟩ (.cons ⟨rfl, id_written⟩
      (.cons ⟨rfl, label_written⟩ .nil)))
  | fcos =>
    exact .cons ⟨rfl, bbox_written⟩ (.cons ⟨rfl, score_written⟩ (.cons ⟨rfl, id_written⟩
      (.cons ⟨rfl, label_written⟩ .nil)))
  | own =>
    exact .cons ⟨rfl, bbox_written⟩ (.cons ⟨rfl, label_written⟩ (.cons ⟨rfl, id_written⟩
      (.cons ⟨rfl, score_written⟩ .nil)))

theorem exists_written_extras {extras : List (String × String)}
    (extra : ∀ text ∈ extras, text.1 ∉ known ∧ ∃ tree, Written text.2 tree) :
    ∃ members, List.Forall₂ WrittenMember extras members ∧
      ∀ member ∈ members, member.1 ∉ known ∧ member.2.readable = true := by
  induction extras with
  | nil => exact ⟨[], .nil, List.forall_mem_nil _⟩
  | cons text extras ih =>
    obtain ⟨⟨apart, tree, written⟩, rest⟩ := List.forall_mem_cons.1 extra
    obtain ⟨members, all_written, other⟩ := ih rest
    exact ⟨(text.1, tree) :: members, .cons ⟨rfl, written⟩ all_written,
      List.forall_mem_cons.2 ⟨⟨apart, written.readable⟩, other⟩⟩

/-- The console writes its own shape. -/
theorem print_eq (d : Detection) : d.print = Json.objectText (Shape.own.texts d) := by
  have bbox : "\x7b\"bbox\":[" = "\x7b" ++ (Json.quote "bbox" ++ (":" ++ "[")) := by decide +kernel
  have label : "],\"label\":" = "]" ++ ("," ++ (Json.quote "label" ++ ":")) := by decide +kernel
  have id : ",\"class_id\":" = "," ++ (Json.quote "class_id" ++ ":") := by decide +kernel
  have score : ",\"score\":" = "," ++ (Json.quote "score" ++ ":") := by decide +kernel
  delta print
  rw [bbox, label, id, score]
  simp only [Json.objectText, Shape.texts, Shape.members, Json.arrayText, Json.memberText,
    List.map_cons, List.map_nil, Json.commas_cons, Json.commas_singleton, String.append_assoc]
  rfl

section
variable {d : Detection} (small : ∀ n ∈ d.classId, n < UInt32.size) (reads : d.ReadsBack)
include small reads

/-- The texts of a shape are those of members that hold the box. -/
theorem exists_holds_of_perm (shape : Shape) {extras texts : List (String × String)}
    (extra : ∀ text ∈ extras, text.1 ∉ known ∧ ∃ tree, Written text.2 tree)
    (perm : texts.Perm (shape.texts d ++ extras)) :
    ∃ members, List.Forall₂ WrittenMember texts members ∧ Holds d members := by
  obtain ⟨read_score, read_corners⟩ := List.forall_mem_cons.1 reads
  obtain ⟨score, score_written, score_read⟩ := exists_written_single read_score
  obtain ⟨corners, corners_written, corners_read⟩ := exists_written_singles read_corners
  obtain ⟨others, others_written, other⟩ := exists_written_extras extra
  have own := shape.written (Json.Written.array corners_written) (Json.written_quote d.label)
    (written_idText small) score_written
  -- the trees go along when the texts are put into their order
  obtain ⟨members, written, moved⟩ :=
    List.perm_comp_forall₂ perm (List.rel_append own others_written)
  exact ⟨members, written, shape, corners, score, others, corners_read, score_read, other, moved⟩

/-- **A text that is put together of the members of a shape** and any others is read as the box. -/
theorem ofText_of_perm (shape : Shape) {extras texts : List (String × String)}
    (extra : ∀ text ∈ extras, text.1 ∉ known ∧ ∃ tree, Written text.2 tree)
    (perm : texts.Perm (shape.texts d ++ extras)) : ofText (Json.objectText texts) = .ok d := by
  obtain ⟨members, written, holds⟩ := exists_holds_of_perm small reads shape extra perm
  exact ofText_eq (Json.Written.object written).read_eq (ofTree_of_holds small holds)

/-- What the console writes is read as what it wrote. -/
theorem ofText_print : ofText d.print = .ok d := by
  rw [print_eq]
  refine ofText_of_perm small reads .own (List.forall_mem_nil _) ?_
  rw [List.append_nil]

end

/-! ## Where the class comes from -/

/-- The class of a box that has been read: the name and the number are each given under names of
their own, and else by the label, if it is a text or a number. -/
structure Resolved (members : List (String × Tree)) (d : Detection) : Prop where
  label_of_name : ∀ value, Json.given ["name", "class_name"] members = some value →
    value = .string (some d.label)
  label_of_label : Json.given ["name", "class_name"] members = none →
    ∀ s, Json.given ["label"] members = some (.string (some s)) → d.label = s
  label_of_none : Json.given ["name", "class_name"] members = none →
    (∀ s, Json.given ["label"] members ≠ some (.string (some s))) → d.label = ""
  classId_of_id : ∀ value, Json.given ["id", "class_id"] members = some value →
    ∃ n : Nat, value = .number (some (.whole n)) ∧ d.classId = some n
  classId_of_label : Json.given ["id", "class_id"] members = none →
    ∀ number, Json.given ["label"] members = some (.number number) →
      ∃ n : Nat, number = some (.whole n) ∧ d.classId = some n
  classId_of_none : Json.given ["id", "class_id"] members = none →
    (∀ number, Json.given ["label"] members ≠ some (.number number)) → d.classId = none

section
variable {members : List (String × Tree)} {draft : Draft}
  (filled : Filled origin room .empty members draft)
include filled

/-- A label that is given is a number or a text. -/
theorem label_of_given {value : Tree}
    (found : Json.given ["label"] members = some value) :
    (∃ n : Nat, value = .number (some (.whole n)) ∧ draft.label.join = some (.id n)) ∨
      ∃ s, value = .string (some s) ∧ draft.label.join = some (.text s) := by
  obtain ⟨label, read, joined⟩ := filled.label.join_of_given found
  rcases labelOf_eq_some_iff.1 read with ⟨n, value_eq, -, rfl⟩ | ⟨s, value_eq, rfl⟩
  · exact .inl ⟨n, value_eq, joined⟩
  · exact .inr ⟨s, value_eq, joined⟩

/-- The fields of a box are put together as its members say. -/
theorem resolved_finish (bbox : Vector Float32 4) : Resolved members (draft.finish bbox) where
  label_of_name value found := by
    obtain ⟨s, read, joined⟩ := filled.name.join_of_given found
    rw [nameOf_eq_some_iff.1 read]
    simp [Draft.finish, joined]
  label_of_label missing s found := by
    have unnamed := filled.name.join_of_not_given missing
    rcases label_of_given filled found with ⟨n, value_eq, -⟩ | ⟨t, value_eq, joined⟩
    · cases value_eq
    · cases value_eq
      simp [Draft.finish, unnamed, joined]
  label_of_none missing other := by
    have unnamed := filled.name.join_of_not_given missing
    cases found : Json.given ["label"] members with
    | none => simp [Draft.finish, unnamed, filled.label.join_of_not_given found]
    | some value =>
      rcases label_of_given filled found with ⟨n, rfl, joined⟩ | ⟨s, rfl, -⟩
      · simp [Draft.finish, unnamed, joined]
      · exact absurd found (other s)
  classId_of_id value found := by
    obtain ⟨n, read, joined⟩ := filled.id.join_of_given found
    exact ⟨n, (idOf_eq_some_iff.1 read).1, by simp [Draft.finish, joined]⟩
  classId_of_label missing number found := by
    have unnumbered := filled.id.join_of_not_given missing
    rcases label_of_given filled found with ⟨n, value_eq, joined⟩ | ⟨s, value_eq, -⟩
    · cases value_eq
      exact ⟨n, rfl, by simp [Draft.finish, unnumbered, joined]⟩
    · cases value_eq
  classId_of_none missing other := by
    have unnumbered := filled.id.join_of_not_given missing
    cases found : Json.given ["label"] members with
    | none => simp [Draft.finish, unnumbered, filled.label.join_of_not_given found]
    | some value =>
      rcases label_of_given filled found with ⟨n, rfl, -⟩ | ⟨s, rfl, joined⟩
      · exact absurd found (other _)
      · simp [Draft.finish, unnumbered, joined]

end

/-- **The class of every box that is read** comes from what its members give. -/
theorem resolved_of_ofTree {members : List (String × Tree)} {d : Detection}
    (read : ofTree origin room (.object (Tree.keyed members)) = .ok d) : Resolved members d := by
  obtain ⟨draft, bbox, filled, -, rfl⟩ := ofTree_keyed_eq_ok_iff.1 read
  exact resolved_finish filled bbox

/-- Only an object whose members have names is read. -/
theorem exists_keyed_of_ofTree {members : List (Tree × Tree)} {d : Detection}
    (read : ofTree origin room (.object members) = .ok d) :
    ∃ named, members = Tree.keyed named := by
  rw [ofTree, bind_eq_ok_iff] at read
  obtain ⟨_, walked, -⟩ := read
  exact exists_keyed walked

section
variable {members members' : List (String × Tree)} {d d' : Detection}
  (resolved : Resolved members d) (resolved' : Resolved members' d')
  (label : Json.given ["label"] members = Json.given ["label"] members')
include resolved resolved' label

/-- The class name is found without the class number. -/
theorem label_eq_of_resolved (name : Json.given ["name", "class_name"] members =
    Json.given ["name", "class_name"] members') : d.label = d'.label := by
  cases found : Json.given ["name", "class_name"] members with
  | some value =>
    have same := (resolved.label_of_name value found).symm.trans
      (resolved'.label_of_name value (name ▸ found))
    exact Option.some.inj (Tree.string.inj same)
  | none =>
    have found' := name ▸ found
    by_cases text : ∃ s, Json.given ["label"] members = some (.string (some s))
    · obtain ⟨s, given⟩ := text
      exact (resolved.label_of_label found s given).trans
        (resolved'.label_of_label found' s (label ▸ given)).symm
    · have other := not_exists.1 text
      exact (resolved.label_of_none found other).trans
        (resolved'.label_of_none found' (label ▸ other)).symm

/-- The class number is found without the class name. -/
theorem classId_eq_of_resolved (id : Json.given ["id", "class_id"] members =
    Json.given ["id", "class_id"] members') : d.classId = d'.classId := by
  cases found : Json.given ["id", "class_id"] members with
  | some value =>
    obtain ⟨n, value_eq, id_eq⟩ := resolved.classId_of_id value found
    obtain ⟨n', value_eq', id_eq'⟩ := resolved'.classId_of_id value (id ▸ found)
    cases value_eq.symm.trans value_eq'
    exact id_eq.trans id_eq'.symm
  | none =>
    have found' := id ▸ found
    by_cases numeric : ∃ number, Json.given ["label"] members = some (.number number)
    · obtain ⟨number, given⟩ := numeric
      obtain ⟨n, number_eq, id_eq⟩ := resolved.classId_of_label found number given
      obtain ⟨n', number_eq', id_eq'⟩ := resolved'.classId_of_label found' number (label ▸ given)
      cases number_eq.symm.trans number_eq'
      exact id_eq.trans id_eq'.symm
    · have other := not_exists.1 numeric
      exact (resolved.classId_of_none found other).trans
        (resolved'.classId_of_none found' (label ▸ other)).symm

end

/-- **The shapes of a box agree.**  The members of each shape, in any order and with any others
between them, are read as the box they hold, and so is every text of them; if the numbers of a box
are read back, so are the texts that are put together of a shape, and what the console writes
itself.  And whatever is read as a box, its class comes from what its members give, the name without
regard to the number and the number without regard to the name. -/
theorem shapes_law (d : Detection) :
    ((∀ n ∈ d.classId, n < UInt32.size) →
      (∀ members, Holds d members →
        (∀ origin room, ofTree origin room (.object (Tree.keyed members)) = .ok d) ∧
        ∀ text, Tree.read text = ⟨.object (Tree.keyed members), false⟩ → ofText text = .ok d) ∧
      (d.ReadsBack →
        (∀ (shape : Shape) (extras texts : List (String × String)),
          (∀ text ∈ extras, text.1 ∉ known ∧ ∃ tree, Written text.2 tree) →
          texts.Perm (shape.texts d ++ extras) → ofText (Json.objectText texts) = .ok d) ∧
        ofText d.print = .ok d)) ∧
    (∀ origin room members, ofTree origin room (.object members) = .ok d →
      ∃ named, members = Tree.keyed named) ∧
    ∀ origin room named, ofTree origin room (.object (Tree.keyed named)) = .ok d →
      Resolved named d ∧
      ∀ origin' room' named' d',
        ofTree origin' room' (.object (Tree.keyed named')) = .ok d' →
        Json.given ["label"] named = Json.given ["label"] named' →
        (Json.given ["name", "class_name"] named = Json.given ["name", "class_name"] named' →
          d.label = d'.label) ∧
        (Json.given ["id", "class_id"] named = Json.given ["id", "class_id"] named' →
          d.classId = d'.classId) := by
  refine ⟨fun small => ⟨?_, ?_⟩, fun origin room members => exists_keyed_of_ofTree, ?_⟩
  · intro members holds
    refine ⟨fun origin room => ofTree_of_holds small holds, ?_⟩
    intro text read
    exact ofText_eq read (ofTree_of_holds small holds)
  · intro reads
    refine ⟨?_, ofText_print small reads⟩
    intro shape extras texts extra perm
    exact ofText_of_perm small reads shape extra perm
  · intro origin room named read
    have resolved := resolved_of_ofTree read
    refine ⟨resolved, ?_⟩
    intro origin' room' named' d' read' label
    have resolved' := resolved_of_ofTree read'
    exact ⟨label_eq_of_resolved resolved resolved' label,
      classId_eq_of_resolved resolved resolved' label⟩

/-- A number is read back if the digits of its text, scaled, come down to it. -/
theorem decodeText_writeSingle {x : Float32} {y : Float} (c : Char) (rest : List Char)
    {significand : Nat} {power : Int}
    (written : (Layout.jsonSingle.writeSingle x).toList = c :: rest)
    (solid : Json.Token.isBlank c = false)
    (scanned : Json.Token.scanOne (c :: rest) =
      some (.number ((Decimal.scaled significand power).map .float), []))
    (scaled : Decimal.scaled significand power = some y) (narrowed : narrow y = x) :
    Json.decodeText Tree.single (Layout.jsonSingle.writeSingle x) = .ok x := by
  rw [scaled] at scanned
  have read : Tree.read (Layout.jsonSingle.writeSingle x) = ⟨.number (some (.float y)), false⟩ := by
    rw [Tree.read_eq_iff rfl, written, Json.Token.scan_of_scanOne solid scanned,
      Json.Token.scan_nil]
    rfl
  rw [Json.decodeText, read, ← narrowed]
  rfl

/-- A dog that is recognized halfway. -/
def dog : Detection := ⟨#v[1, 2, 3, 4], "dog", some 16, 0.25⟩

/-- What a device gives for the dog, with any class number. -/
def dogMembers (id : Option Nat) : List (String × Tree) :=
  Shape.yolo.members (.array ([1, 2, 3, 4].map fun n => .number (some (.whole n))))
    (.string (some "dog")) (idTree id) (.number (some (.float 0.25)))

theorem holds_dogMembers (id : Option Nat) : Holds { dog with classId := id } (dogMembers id) :=
  .intro .yolo _ _ [] (.cons rfl (.cons rfl (.cons rfl (.cons rfl .nil)))) rfl
    (List.forall_mem_nil _) (by rw [List.append_nil]; rfl)

theorem readsBack_dog : dog.ReadsBack := by
  have quarter : Decimal.scaled 25 (-2) = some 0.25 := by rw [Decimal.scaled, Decimal.scale]; rfl
  have one : Decimal.scaled 10 (-1) = some 1 := by rw [Decimal.scaled, Decimal.scale]; rfl
  have two : Decimal.scaled 20 (-1) = some 2 := by rw [Decimal.scaled, Decimal.scale]; rfl
  have three : Decimal.scaled 30 (-1) = some 3 := by rw [Decimal.scaled, Decimal.scale]; rfl
  have four : Decimal.scaled 40 (-1) = some 4 := by rw [Decimal.scaled, Decimal.scale]; rfl
  intro x among
  have numbers : x = 0.25 ∨ x = 1 ∨ x = 2 ∨ x = 3 ∨ x = 4 := by simpa [dog] using among
  rcases numbers with rfl | rfl | rfl | rfl | rfl
  · exact decodeText_writeSingle '0' ".25".toList (by decide +kernel)
      rfl rfl quarter rfl
  · exact decodeText_writeSingle '1' ".0".toList (by decide +kernel)
      rfl rfl one rfl
  · exact decodeText_writeSingle '2' ".0".toList (by decide +kernel)
      rfl rfl two rfl
  · exact decodeText_writeSingle '3' ".0".toList (by decide +kernel)
      rfl rfl three rfl
  · exact decodeText_writeSingle '4' ".0".toList (by decide +kernel)
      rfl rfl four rfl

/-- A device writes the dog in an order of its own, with a member that nobody asks for, and the
console what it has read; and without its number the dog is a dog as well. -/
theorem shapes_law_dog :
    ofText ("\x7b\"class_name\":\"dog\",\"prob\":0.25,\"seen\":null,\"label\":16," ++
      "\"bbox\":[1.0,2.0,3.0,4.0]\x7d") = .ok dog ∧
    ofText dog.print = .ok dog ∧
    ofTree .value 3 (.object (Tree.keyed (dogMembers (some 16)))) = .ok dog ∧
    dog.label = { dog with classId := none }.label := by
  obtain ⟨reading, -, classes⟩ := shapes_law dog
  obtain ⟨members, texts⟩ := reading (by decide)
  obtain ⟨reads, printed⟩ := texts readsBack_dog
  have shuffled := reads .fcos [("seen", "null")]
    [("class_name", Json.quote "dog"), ("prob", "0.25"), ("seen", "null"), ("label", "16"),
      ("bbox", Json.arrayText ["1.0", "2.0", "3.0", "4.0"])]
    (List.forall_mem_singleton.2 ⟨by decide, .null, Json.written_null⟩) (by decide +kernel)
  have read := (members _ (holds_dogMembers (some 16))).1 .value 3
  obtain ⟨-, alone⟩ := classes .value 3 _ read
  have stray : ofTree .value 3 (.object (Tree.keyed (dogMembers none))) =
      .ok { dog with classId := none } := ofTree_of_holds (by simp) (holds_dogMembers none)
  exact ⟨shuffled, printed, read, (alone .value 3 _ _ stray rfl).1 rfl⟩

end Detection
end Lookout
