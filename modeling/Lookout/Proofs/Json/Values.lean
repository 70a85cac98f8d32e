import Lookout.Json.Decode
import Lookout.Proofs.Success

/-!
# Decoding values that have been read before

A value that has been read is a tree without a fault of spelling: it can always be passed over
(`skip_toTree`), and each decoder takes exactly the values of its type.  The members of an object
have different names (`nodup_sortMembers`), so a walk over them fills each field from the one member
of its name, in whatever order they come.

## Main definitions

* `Json.present?` — the value of a member that is there and not `null`.
* `Json.Fills` — what a walk over the members of an object leaves in a field.
-/

namespace Lookout

namespace Json

/-! ## The members of an object -/

/-- The names of a list of members ascend. -/
def Ascending (members : List (String × Json)) : Prop :=
  (members.map Prod.fst).Pairwise (· < ·)

theorem ascending_insert {members : List (String × Json)} (sorted : Ascending members)
    (name : String) (value : Json) :
    Ascending (insert name value members) ∧
      ∀ other ∈ (insert name value members).map Prod.fst,
        other = name ∨ other ∈ members.map Prod.fst := by
  induction members with
  | nil =>
    refine ⟨List.pairwise_singleton _ _, fun other member => .inl ?_⟩
    exact List.mem_singleton.1 member
  | cons first rest ih =>
    obtain ⟨other, old⟩ := first
    have ascending := sorted
    obtain ⟨least, sorted⟩ := List.pairwise_cons.1 sorted
    rw [insert]
    split
    · next before =>
      refine ⟨List.pairwise_cons.2 ⟨?_, ascending⟩, ?_⟩
      · intro later member
        rcases List.mem_cons.1 member with rfl | member
        · exact before
        · exact String.lt_trans before (least later member)
      · intro later member
        exact List.mem_cons.1 member
    · next notBefore =>
      split
      · next same =>
        subst same
        exact ⟨ascending, fun later member => .inr member⟩
      · next different =>
        obtain ⟨ascending, among⟩ := ih sorted
        refine ⟨List.pairwise_cons.2 ⟨?_, ascending⟩, ?_⟩
        · intro later member
          rcases among later member with rfl | member
          · by_contra notAfter
            exact different (String.le_antisymm notAfter notBefore)
          · exact least later member
        · intro later member
          rcases List.mem_cons.1 member with rfl | member
          · exact .inr (.head _)
          · exact (among later member).imp_right (.tail _)

theorem ascending_sortMembers (members : List (String × Json)) :
    Ascending (sortMembers members) := by
  suffices every : ∀ sorted, Ascending sorted → Ascending
      (members.foldl (fun sorted member => insert member.1 member.2 sorted) sorted) from
    every [] List.Pairwise.nil
  induction members with
  | nil => exact fun sorted ascending => ascending
  | cons member rest ih => exact fun sorted ascending => ih _ (ascending_insert ascending ..).1

/-- The members of an object have different names. -/
theorem nodup_sortMembers (members : List (String × Json)) :
    ((sortMembers members).map Prod.fst).Nodup := by
  apply List.Pairwise.imp _ (ascending_sortMembers members)
  intro name other before same
  exact String.lt_irrefl other (same ▸ before)

/-- The value of a member that is there and not `null`. -/
def present? (value : Json) (name : String) : Option Json :=
  match value.get? name with
  | some .null => none
  | found => found

theorem present?_congr {value other : Json} {name : String}
    (same : value.get? name = other.get? name) : value.present? name = other.present? name := by
  rw [present?, same, present?]

/-! ## The decoders -/

mutual

theorem readable_toTree : (value : Json) → value.toTree.readable = true
  | .null | .bool _ | .number _ | .string _ => rfl
  | .array items => allReadable_itemTrees items
  | .object members => allMembersReadable_memberTrees members

theorem allReadable_itemTrees : (items : List Json) → Tree.allReadable (itemTrees items) = true
  | [] => rfl
  | item :: rest => by
    rw [itemTrees, Tree.allReadable, readable_toTree item, allReadable_itemTrees rest,
      Bool.and_self]

theorem allMembersReadable_memberTrees :
    (members : List (String × Json)) → Tree.allMembersReadable (memberTrees members) = true
  | [] => rfl
  | (name, value) :: rest => by
    rw [memberTrees, Tree.allMembersReadable, readable_toTree value,
      allMembersReadable_memberTrees rest, Bool.and_self]

end

/-- Any value can be passed over. -/
theorem skip_toTree (value : Json) : value.toTree.skip = .ok () :=
  if_pos (readable_toTree value)

theorem itemTrees_eq_map (items : List Json) : itemTrees items = items.map toTree := by
  induction items with
  | nil => rfl
  | cons item rest ih => rw [itemTrees, ih, List.map_cons]

variable {α : Type} {value : Json}

theorem refuse_ne_ok (tree : Tree) (wanted : String) (a : α) : tree.refuse wanted ≠ .ok a := by
  intro done
  obtain ⟨found, -, refused⟩ := bind_eq_ok_iff.1 done
  cases refused

theorem word_eq_ok_iff {tree : Tree} {width : Nat} {wanted : String} {n : Nat} :
    tree.word width wanted = .ok n ↔ tree = .number (some (.whole n)) ∧ n < Nat.pow 2 width := by
  have positive : 0 < Nat.pow 2 width := Nat.pow_pos (by decide)
  rw [Tree.word, map_eq_ok_iff]
  constructor
  · rintro ⟨m, read, rfl⟩
    rw [Tree.whole.eq_def] at read
    split at read
    · next k =>
      split at read
      · next within =>
        cases read
        have whole : ((m.toNat : Nat) : Int) = m := Int.toNat_of_nonneg within.1
        exact ⟨by rw [whole], by omega⟩
      · cases read
    · exact absurd read (refuse_ne_ok _ wanted m)
  · rintro ⟨rfl, small⟩
    refine ⟨n, if_pos ⟨Int.natCast_nonneg n, ?_⟩, Int.toNat_natCast n⟩
    omega

theorem text_eq_ok_iff {tree : Tree} {s : String} :
    tree.text = .ok s ↔ tree = .string (some s) := by
  constructor
  · intro read
    rw [Tree.text.eq_def] at read
    split at read
    · cases read
      rfl
    · exact absurd read (refuse_ne_ok _ "a string" s)
  · rintro rfl
    rfl

theorem optional_eq_some_iff {decode : Tree → Except Fault α} {tree : Tree} {a : α} :
    tree.optional decode = .ok (some a) ↔ tree ≠ .null ∧ decode tree = .ok a := by
  cases tree <;> simp [Tree.optional, map_eq_ok_iff]

theorem optional_eq_none_iff {decode : Tree → Except Fault α} {tree : Tree} :
    tree.optional decode = .ok none ↔ tree = .null := by
  cases tree <;> simp [Tree.optional, map_eq_ok_iff]

theorem word_toTree_eq_ok_iff {width : Nat} {wanted : String} {n : Nat} :
    value.toTree.word width wanted = .ok n ↔ value = .nat n ∧ n < Nat.pow 2 width := by
  rw [word_eq_ok_iff]
  cases value <;> simp [toTree, nat]

theorem text_toTree_eq_ok_iff {s : String} : value.toTree.text = .ok s ↔ value = .string s := by
  rw [text_eq_ok_iff]
  cases value <;> simp [toTree]

theorem optional_toTree (decode : Tree → Except Fault α) (other : value ≠ .null) :
    Tree.optional decode value.toTree = (decode value.toTree).map some := by
  cases value with
  | null => exact absurd rfl other
  | bool | number | string | array | object => rfl

/-- Only a number is read as one. -/
theorem eq_number_of_value? {tree : Tree} {room : Nat} {n : Number}
    (read : tree.value? room = some (.number n)) : tree = .number (some n) := by
  cases tree with
  | number m => simpa [Tree.value?] using read
  | array items | object members => cases room <;> simp [Tree.value?, ofMembers] at read
  | null | bool | string | broken => simp [Tree.value?] at read

/-- Only a string is read as one. -/
theorem eq_string_of_value? {tree : Tree} {room : Nat} {s : String}
    (read : tree.value? room = some (.string s)) : tree = .string (some s) := by
  cases tree with
  | string t => simpa [Tree.value?] using read
  | array items | object members => cases room <;> simp [Tree.value?, ofMembers] at read
  | null | bool | number | broken => simp [Tree.value?] at read

/-! ## The walk over the members -/

theorem once_eq_ok_iff {name : String} {old new : Option α} {decoded : Except Fault α} :
    once name old decoded = .ok new ↔ old = none ∧ ∃ a, decoded = .ok a ∧ new = some a := by
  rw [once]
  cases old with
  | some b => simp [mismatch]
  | none =>
    rw [Option.isSome_none, if_neg Bool.false_ne_true, map_eq_ok_iff]
    simp only [true_and, eq_comm]

theorem required_eq_ok_iff {name : String} {slot : Option α} {a : α} :
    required name slot = .ok a ↔ slot = some a := by
  cases slot <;> simp [required, mismatch]

/-- What a walk leaves in a field, given the value of the member of its name: what was in it before
or, if there is such a member, its decoded value; a field is not filled twice. -/
def Fills (decode : Tree → Except Fault α) (found : Option Json) (old new : Option α) : Prop :=
  match found with
  | none => new = old
  | some value => old = none ∧ ∃ a, decode value.toTree = .ok a ∧ new = some a

theorem fills_singleton_self_iff {decode : Tree → Except Fault α} {name : String}
    {old new : Option α} :
    Fills decode ([(name, value)].lookup name) old new ↔
      once name old (decode value.toTree) = .ok new := by
  rw [List.lookup_cons_self, once_eq_ok_iff, Fills]

theorem fills_singleton_of_ne {decode : Tree → Except Fault α} {name field : String}
    {old new : Option α} (other : name ≠ field) :
    Fills decode ([(name, value)].lookup field) old new ↔ new = old := by
  have apart : (field == name) = false := beq_eq_false_iff_ne.2 other.symm
  rw [List.lookup_cons, apart, List.lookup_nil, Fills]

theorem fills_cons_iff {decode : Tree → Except Fault α} {member : String × Json}
    {rest : List (String × Json)} (apart : member.1 ∉ rest.map Prod.fst) (field : String)
    {old new : Option α} :
    Fills decode ((member :: rest).lookup field) old new ↔
      ∃ mid, Fills decode ([member].lookup field) old mid ∧
        Fills decode (rest.lookup field) mid new := by
  obtain ⟨name, value⟩ := member
  by_cases same : field = name
  · subst same
    have absent : rest.lookup field = none := by
      rw [List.lookup_eq_none_iff]
      intro other member
      rw [bne_iff_ne]
      rintro rfl
      exact apart (List.mem_map.2 ⟨other, member, rfl⟩)
    simp [List.lookup_cons_self, absent, Fills]
  · have other : (field == name) = false := beq_eq_false_iff_ne.2 same
    simp [List.lookup_cons, other, Fills]

/-- A field that must be there is filled by the member of its name. -/
theorem fills_some_iff {decode : Tree → Except Fault α} {found : Option Json} {a : α} :
    Fills decode found none (some a) ↔
      ∃ value, found = some value ∧ decode value.toTree = .ok a := by
  cases found with
  | none => simp [Fills]
  | some value => simp [Fills]

/-- What a field that may be missing or `null` holds in the end. -/
def Offers (decode : Tree → Except Fault α) (value : Json) (name : String) : Option α → Prop
  | none => value.present? name = none
  | some a => ∃ member, value.present? name = some member ∧ decode member.toTree = .ok a

theorem offers_iff {decode : Tree → Except Fault α} {name : String} {a : Option α} :
    Offers decode value name a ↔
      ∃ slot, Fills (Tree.optional decode) (value.get? name) none slot ∧ slot.join = a := by
  cases found : value.get? name with
  | none => cases a <;> simp [Offers, present?, found, Fills]
  | some member =>
    by_cases empty : member = .null
    · subst empty
      cases a <;> simp [Offers, present?, found, Fills, toTree, Tree.optional]
    · have there : value.present? name = some member := by
        cases member with
        | null => exact absurd rfl empty
        | bool | number | string | array | object => simp only [present?, found]
      cases a <;> simp [Offers, there, Fills, optional_toTree decode empty, map_eq_ok_iff]

end Json
end Lookout
