import Lookout.Proofs.Json.Text
import Lookout.Proofs.Json.Values

/-!
# Printed values are read back

A value is printed as the text of its tree (`Stable.written`), and its tree is the value again,
unless arrays and objects stand too deep inside each other (`Stable.comesBack`).  Floats are the
only thing that a text can get wrong: two roundings happen when one is read, so whether a float
comes back is asked of each float by itself.

## Main definitions

* `Json.depth` — how many arrays and objects stand inside each other.
* `Json.Number.Stable`, `Json.Stable` — what comes back when it is printed and read.
* `Json.ComesBack` — a tree has its value where there is room for it, and none elsewhere.
-/

namespace Lookout.Json

/-! ## Depth -/

mutual

/-- How many arrays and objects stand inside each other. -/
def depth : Json → Nat
  | array items => itemsDepth items + 1
  | object members => membersDepth members + 1
  | null | bool _ | number _ | string _ => 0

/-- The depth of the deepest item. -/
def itemsDepth : List Json → Nat
  | [] => 0
  | item :: rest => max item.depth (itemsDepth rest)

/-- The depth of the deepest member. -/
def membersDepth : List (String × Json) → Nat
  | [] => 0
  | (_, value) :: rest => max value.depth (membersDepth rest)

end

/-! ## Values that come back -/

/-- A number that comes back: a whole one if a word of sixty-four bits holds it, signed or not, and
a float if its text is read as it. -/
def Number.Stable : Number → Prop
  | .whole n => Int64.minValue.toInt ≤ n ∧ n < UInt64.size
  | .float x => parse? (Layout.json.write x) = some (.number (.float x))

/-- A value all of whose numbers come back, and whose objects have their members in order. -/
inductive Stable : Json → Prop
  | null : Stable null
  | bool (b : Bool) : Stable (bool b)
  | number {n : Number} (stable : n.Stable) : Stable (number n)
  | string (s : String) : Stable (string s)
  | array {items : List Json} (each : ∀ item ∈ items, Stable item) : Stable (array items)
  | object {members : List (String × Json)} (ascending : Ascending members)
      (each : ∀ member ∈ members, Stable member.2) : Stable (object members)

/-! ## Texts -/

theorem print_array (items : List Json) : (array items).print = arrayText (items.map print) := by
  have texts : printItems items = items.map print := by
    induction items with
    | nil => rfl
    | cons item rest ih => rw [printItems, ih, List.map_cons]
  rw [print, texts, arrayText]

theorem print_object (members : List (String × Json)) :
    (object members).print =
      objectText (members.map fun member => (member.1, member.2.print)) := by
  have texts : printMembers members =
      (members.map fun member => (member.1, member.2.print)).map memberText := by
    induction members with
    | nil => rfl
    | cons member rest ih =>
      obtain ⟨name, value⟩ := member
      rw [printMembers, ih, String.append_assoc]
      rfl
  rw [print, texts, objectText]

theorem memberTrees_eq_keyed (members : List (String × Json)) :
    memberTrees members = Tree.keyed (members.map fun member => (member.1, member.2.toTree)) := by
  induction members with
  | nil => rfl
  | cons member rest ih => rw [memberTrees, ih]; rfl

theorem written_of_parse? {text : String} {n : Number} (read : parse? text = some (.number n)) :
    Written text (.number (some n)) := by
  rw [parse?] at read
  cases document_eq : Tree.read text with
  | mk tree trailing =>
    rw [document_eq] at read
    cases trailing with
    | true => cases read
    | false =>
      obtain rfl : tree = .number (some n) := eq_number_of_value? read
      exact ⟨rfl, document_eq⟩

theorem Number.Stable.written {n : Number} (stable : n.Stable) :
    Written n.print (.number (some n)) := by
  cases n with
  | whole n => exact written_int stable.1 stable.2
  | float x => exact written_of_parse? stable

/-- **A value is printed as the text of its tree.** -/
theorem Stable.written {v : Json} (stable : v.Stable) : Written v.print v.toTree := by
  induction stable with
  | null => exact written_null
  | bool b => exact (delimited_bool b).spelled.written rfl
  | number stable => exact stable.written
  | string s => exact written_quote s
  | @array items each ih =>
    rw [print_array, toTree, itemTrees_eq_map]
    refine Written.array (List.forall₂_map_left_iff.2 (List.forall₂_map_right_iff.2 ?_))
    exact List.forall₂_same.2 ih
  | @object members ascending each ih =>
    rw [print_object, toTree, memberTrees_eq_keyed]
    refine Written.object (List.forall₂_map_left_iff.2 (List.forall₂_map_right_iff.2 ?_))
    exact List.forall₂_same.2 fun member among => ⟨rfl, ih member among⟩

/-! ## Trees -/

/-- A member whose name is the greatest comes last. -/
theorem insert_eq_append {sorted : List (String × Json)} {name : String}
    (greatest : ∀ member ∈ sorted, member.1 < name) (value : Json) :
    insert name value sorted = sorted ++ [(name, value)] := by
  induction sorted with
  | nil => rfl
  | cons first rest ih =>
    obtain ⟨other, old⟩ := first
    obtain ⟨before, later⟩ := List.forall_mem_cons.1 greatest
    have notBefore : ¬ name < other := String.lt_asymm before
    have different : name ≠ other := by
      rintro rfl
      exact String.lt_irrefl name before
    rw [insert, if_neg notBefore, if_neg different, ih later, List.cons_append]

/-- Members that are in order stay as they are. -/
theorem Ascending.sortMembers_eq {members : List (String × Json)} (ascending : Ascending members) :
    sortMembers members = members := by
  -- whatever has been sorted already comes before all that is left
  suffices every : ∀ sorted, Ascending (sorted ++ members) →
      members.foldl (fun sorted member => insert member.1 member.2 sorted) sorted =
        sorted ++ members from every [] ascending
  induction members with
  | nil => exact fun sorted _ => (List.append_nil sorted).symm
  | cons member rest ih =>
    intro sorted ordered
    have greatest : ∀ other ∈ sorted, other.1 < member.1 := by
      intro other among
      rw [Ascending, List.map_append, List.pairwise_append] at ordered
      exact ordered.2.2 _ (List.mem_map_of_mem among) _ (List.mem_map_of_mem (.head _))
    have split : sorted ++ member :: rest = sorted ++ [member] ++ rest := by simp
    rw [split] at ordered ⊢
    rw [List.foldl_cons, insert_eq_append greatest]
    exact ih (List.Pairwise.of_cons ascending) _ ordered

/-- The value that a tree of this value has in some room. -/
def ComesBack (v : Json) : Prop :=
  ∀ room, v.toTree.value? room = if v.depth ≤ room then some v else none

theorem values?_itemTrees {items : List Json} (each : ∀ item ∈ items, item.ComesBack)
    (room : Nat) : Tree.values? room (itemTrees items) =
      if itemsDepth items ≤ room then some items else none := by
  induction items with
  | nil => rfl
  | cons item rest ih =>
    obtain ⟨first, later⟩ := List.forall_mem_cons.1 each
    rw [itemTrees, Tree.values?, first room, ih later, itemsDepth]
    simp only [Nat.max_le]
    by_cases own : item.depth ≤ room
    · by_cases others : itemsDepth rest ≤ room
      · simp [own, others]
      · simp [own, others]
    · simp [own]

theorem memberValues?_memberTrees {members : List (String × Json)}
    (each : ∀ member ∈ members, member.2.ComesBack) (room : Nat) :
    Tree.memberValues? room (memberTrees members) =
      if membersDepth members ≤ room then some members else none := by
  induction members with
  | nil => rfl
  | cons member rest ih =>
    obtain ⟨name, value⟩ := member
    obtain ⟨first, later⟩ := List.forall_mem_cons.1 each
    rw [memberTrees, Tree.memberValues?, first room, ih later, membersDepth]
    simp only [Nat.max_le]
    by_cases own : value.depth ≤ room
    · by_cases others : membersDepth rest ≤ room
      · simp [own, others]
      · simp [own, others]
    · simp [own]

/-- **The tree of a value is the value again**, exactly if there is room for its depth. -/
theorem Stable.comesBack {v : Json} (stable : v.Stable) : v.ComesBack := by
  induction stable with
  | null | bool | number | string => exact fun room => (if_pos (Nat.zero_le room)).symm
  | @array items each ih =>
    intro room
    cases room with
    | zero => rfl
    | succ room =>
      rw [toTree, Tree.value?, values?_itemTrees ih room, depth]
      by_cases fits : itemsDepth items ≤ room
      · simp [fits]
      · simp [fits]
  | @object members ascending each ih =>
    intro room
    cases room with
    | zero => rfl
    | succ room =>
      rw [toTree, Tree.value?, memberValues?_memberTrees ih room, depth]
      by_cases fits : membersDepth members ≤ room
      · simp [fits, ofMembers, ascending.sortMembers_eq]
      · simp [fits]

/-- Different values have different trees. -/
theorem Stable.eq_of_toTree_eq {v w : Json} (stable : v.Stable) (other : w.Stable)
    (same : v.toTree = w.toTree) : v = w := by
  have room := stable.comesBack (max v.depth w.depth)
  rw [if_pos (le_max_left ..), same, other.comesBack, if_pos (le_max_right ..)] at room
  exact (Option.some.inj room).symm

end Lookout.Json
