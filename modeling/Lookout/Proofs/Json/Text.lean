import Mathlib.Data.List.Forall2
import Lookout.Json.Tree
import Lookout.Proofs.Json.Scan

/-!
# Reading texts

A tree that holds no fault is read from its tokens and from no others (`read_eq_iff`).  So a text
that is put together from the texts of other values is read as the value of its parts
(`Written.array`, `Written.object`).

## Main definitions

* `Json.Tree.tokens` — the tokens of a tree.
* `Json.Written` — a text of a tree.
* `Json.arrayText`, `Json.objectText` — texts that are put together.
-/

namespace Lookout.Json
namespace Tree

mutual

/-- The tokens of a tree. -/
def tokens : Tree → List Token
  | null => [.null]
  | bool b => [.bool b]
  | number n => [.number n]
  | string s => [.string s]
  | array items => .openArray :: (itemTokens items ++ [.closeArray])
  | object members => .openObject :: (memberTokens members ++ [.closeObject])
  | broken => []

/-- The tokens of the items of an array. -/
def itemTokens : List Tree → List Token
  | [] => []
  | [item] => item.tokens
  | item :: rest => item.tokens ++ .comma :: itemTokens rest

/-- The tokens of the members of an object. -/
def memberTokens : List (Tree × Tree) → List Token
  | [] => []
  | [(name, value)] => name.tokens ++ .colon :: value.tokens
  | (name, value) :: rest => name.tokens ++ .colon :: (value.tokens ++ .comma :: memberTokens rest)

end

/-- The tokens of a value start with one that closes nothing. -/
theorem exists_head_tokens {tree : Tree} (readable : tree.readable = true) :
    ∃ token later, tree.tokens = token :: later ∧ token ≠ .closeArray := by
  cases tree with
  | broken => cases readable
  | null | bool | number | string | array | object =>
    refine ⟨_, _, rfl, ?_⟩
    rintro ⟨⟩

theorem itemTokens_cons {item other : Tree} {rest : List Tree} :
    itemTokens (item :: other :: rest) = item.tokens ++ .comma :: itemTokens (other :: rest) := by
  rw [itemTokens]
  rintro ⟨⟩

theorem memberTokens_cons {name value : Tree} {other : Tree × Tree} {rest : List (Tree × Tree)} :
    memberTokens ((name, value) :: other :: rest) =
      name.tokens ++ .colon :: (value.tokens ++ .comma :: memberTokens (other :: rest)) := by
  rw [memberTokens]
  rintro ⟨⟩

/-- The items of an array start with a token that closes nothing. -/
theorem exists_head_itemTokens {item : Tree} (rest : List Tree) (readable : item.readable = true) :
    ∃ token later, itemTokens (item :: rest) = token :: later ∧ token ≠ .closeArray := by
  obtain ⟨token, later, tokens_eq, other⟩ := exists_head_tokens readable
  cases rest with
  | nil => exact ⟨token, later, tokens_eq, other⟩
  | cons next rest =>
    refine ⟨token, later ++ .comma :: itemTokens (next :: rest), ?_, other⟩
    rw [itemTokens_cons, tokens_eq, List.cons_append]

/-- The members of an object start with a name. -/
theorem exists_head_memberTokens {member : Tree × Tree} {rest : List (Tree × Tree)}
    (readable : allMembersReadable (member :: rest) = true) :
    ∃ name later, memberTokens (member :: rest) = .string name :: .colon :: later := by
  obtain ⟨key, value⟩ := member
  cases key with
  | string name =>
    cases rest with
    | nil => exact ⟨name, _, rfl⟩
    | cons next rest => exact ⟨name, _, memberTokens_cons⟩
  | null | bool | number | array | object | broken => cases readable

/-! ## Trees are read from their tokens -/

/-- So much fuel reads every value of so many tokens. -/
def ReadsValues (fuel : Nat) : Prop :=
  ∀ tree rest, tree.readable = true → 2 * tree.tokens.length ≤ fuel + 1 →
    readValue fuel (tree.tokens ++ rest) = (tree, some rest)

/-- So much fuel reads the items of every array of so many tokens. -/
def ReadsItems (fuel : Nat) : Prop :=
  ∀ item items rest, allReadable (item :: items) = true →
    2 * (itemTokens (item :: items)).length ≤ fuel →
    readItems fuel (itemTokens (item :: items) ++ .closeArray :: rest) = (item :: items, some rest)

/-- So much fuel reads the members of every object of so many tokens. -/
def ReadsMembers (fuel : Nat) : Prop :=
  ∀ member members rest, allMembersReadable (member :: members) = true →
    2 * (memberTokens (member :: members)).length ≤ fuel →
    readMembers fuel (memberTokens (member :: members) ++ .closeObject :: rest) =
      (member :: members, some rest)

section
variable {fuel : Nat}

theorem readsValues_succ (reads_items : ReadsItems fuel) (reads_members : ReadsMembers fuel) :
    ReadsValues (fuel + 1) := by
  intro tree rest readable enough
  cases tree with
  | broken => cases readable
  | null | bool | number | string =>
    simp only [tokens, List.cons_append, List.nil_append, readValue]
  | array items =>
    cases items with
    | nil => rfl
    | cons item items =>
      obtain ⟨token, later, tokens_eq, other⟩ :=
        exists_head_itemTokens items (Bool.and_eq_true_iff.1 readable).1
      simp only [tokens, List.length_cons, List.length_append] at enough
      have read := reads_items item items rest readable (by omega)
      rw [tokens_eq] at read
      simp only [tokens, tokens_eq, List.cons_append, List.append_assoc, List.nil_append,
        readValue] at read ⊢
      split
      · next same => exact absurd (List.cons.inj same).1 other
      · rw [read]
  | object members =>
    cases members with
    | nil => rfl
    | cons member members =>
      obtain ⟨name, later, tokens_eq⟩ := exists_head_memberTokens readable
      simp only [tokens, List.length_cons, List.length_append] at enough
      have read := reads_members member members rest readable (by omega)
      rw [tokens_eq] at read
      simp only [tokens, tokens_eq, List.cons_append, List.append_assoc, List.nil_append,
        readValue] at read ⊢
      rw [read]

theorem readsItems_succ (reads_values : ReadsValues fuel) (reads_items : ReadsItems fuel) :
    ReadsItems (fuel + 1) := by
  intro item items rest all enough
  obtain ⟨readable, readable_rest⟩ := Bool.and_eq_true_iff.1 all
  cases items with
  | nil =>
    have read := reads_values item (.closeArray :: rest) readable (by
      rw [itemTokens] at enough
      omega)
    simp only [itemTokens, readItems, read]
  | cons other items =>
    rw [itemTokens_cons] at enough ⊢
    simp only [List.length_append, List.length_cons] at enough
    have read := reads_values item (.comma :: (itemTokens (other :: items) ++ .closeArray :: rest))
      readable (by omega)
    have later := reads_items other items rest readable_rest (by omega)
    simp only [List.append_assoc, List.cons_append, readItems, read, later]

theorem readsMembers_succ (reads_values : ReadsValues fuel) (reads_members : ReadsMembers fuel) :
    ReadsMembers (fuel + 1) := by
  intro member members rest all enough
  obtain ⟨key, value⟩ := member
  cases key with
  | string name =>
    obtain ⟨readable, readable_rest⟩ := Bool.and_eq_true_iff.1 all
    cases members with
    | nil =>
      simp only [memberTokens, tokens, List.length_append, List.length_cons] at enough
      have read := reads_values value (.closeObject :: rest) readable (by omega)
      simp only [memberTokens, tokens, List.cons_append, List.nil_append, readMembers, read]
    | cons other members =>
      rw [memberTokens_cons] at enough ⊢
      simp only [tokens, List.length_append, List.length_cons] at enough
      have read := reads_values value
        (.comma :: (memberTokens (other :: members) ++ .closeObject :: rest)) readable (by omega)
      have later := reads_members other members rest readable_rest (by omega)
      simp only [tokens, List.append_assoc, List.cons_append, List.nil_append, readMembers, read,
        later]
  | null | bool | number | array | object | broken => cases all

end

theorem reads_tokens (fuel : Nat) : ReadsValues fuel ∧ ReadsItems fuel ∧ ReadsMembers fuel := by
  induction fuel with
  | zero =>
    -- whatever can be read has a token, so there is nothing to read without fuel
    refine ⟨?_, ?_, ?_⟩
    · intro tree rest readable enough
      obtain ⟨token, later, tokens_eq, -⟩ := exists_head_tokens readable
      rw [tokens_eq, List.length_cons] at enough
      omega
    · intro item items rest all enough
      obtain ⟨token, later, tokens_eq, -⟩ :=
        exists_head_itemTokens items (Bool.and_eq_true_iff.1 all).1
      rw [tokens_eq, List.length_cons] at enough
      omega
    · intro member members rest all enough
      obtain ⟨name, later, tokens_eq⟩ := exists_head_memberTokens all
      rw [tokens_eq, List.length_cons] at enough
      omega
  | succ fuel ih =>
    obtain ⟨values, items, members⟩ := ih
    exact ⟨readsValues_succ items members, readsItems_succ values items,
      readsMembers_succ values members⟩

/-! ## And from no others -/

/-- What has been read of some tokens: either all of a tree that can be read, or a tree that breaks
off. -/
def Split (tokens own : List Token) (readable : Bool) : Option (List Token) → Prop
  | some rest => readable = true ∧ tokens = own ++ rest
  | none => readable = false

theorem Split.cons {ts own : List Token} {readable : Bool} {left : Option (List Token)}
    (split : Split ts own readable left) (token : Token) :
    Split (token :: ts) (token :: own) readable left := by
  cases left with
  | none => exact split
  | some rest => exact ⟨split.1, congrArg (token :: ·) split.2⟩

theorem Split.snoc {ts own rest : List Token} {readable : Bool} {token : Token}
    (split : Split ts own readable (some (token :: rest))) :
    Split ts (own ++ [token]) (readable && true) (some rest) := by
  obtain ⟨rfl, rfl⟩ := split
  exact ⟨rfl, by rw [List.append_assoc]; rfl⟩

theorem Split.append {ts own rest more : List Token} {readable later : Bool} {token : Token}
    {left : Option (List Token)} (first : Split ts own readable (some (token :: rest)))
    (second : Split rest more later left) :
    Split ts (own ++ token :: more) (readable && later) left := by
  obtain ⟨rfl, rfl⟩ := first
  cases left with
  | none => exact second
  | some rest =>
    obtain ⟨rfl, rfl⟩ := second
    exact ⟨rfl, by rw [List.append_assoc]; rfl⟩

theorem exists_readItems (fuel : Nat) (ts : List Token) :
    ∃ item items, (readItems fuel ts).1 = item :: items := by
  cases fuel with
  | zero => exact ⟨_, _, rfl⟩
  | succ fuel =>
    rw [readItems]
    split <;> exact ⟨_, _, rfl⟩

theorem exists_readMembers (fuel : Nat) (ts : List Token) :
    ∃ member members, (readMembers fuel ts).1 = member :: members := by
  cases fuel with
  | zero => exact ⟨_, _, rfl⟩
  | succ fuel =>
    unfold readMembers
    split
    · exact ⟨_, _, rfl⟩
    · split <;> exact ⟨_, _, rfl⟩
    · exact ⟨_, _, rfl⟩
    · exact ⟨_, _, rfl⟩
    · exact ⟨_, _, rfl⟩

/-- So much fuel reads a value only from its tokens. -/
def SplitsValues (fuel : Nat) : Prop :=
  ∀ ts, Split ts (readValue fuel ts).1.tokens (readValue fuel ts).1.readable (readValue fuel ts).2

/-- So much fuel reads items only from their tokens. -/
def SplitsItems (fuel : Nat) : Prop :=
  ∀ ts, Split ts (itemTokens (readItems fuel ts).1 ++ [.closeArray])
    (allReadable (readItems fuel ts).1) (readItems fuel ts).2

/-- So much fuel reads members only from their tokens. -/
def SplitsMembers (fuel : Nat) : Prop :=
  ∀ ts, Split ts (memberTokens (readMembers fuel ts).1 ++ [.closeObject])
    (allMembersReadable (readMembers fuel ts).1) (readMembers fuel ts).2

section
variable {fuel : Nat}

theorem splitsValues_succ (splits_items : SplitsItems fuel) (splits_members : SplitsMembers fuel) :
    SplitsValues (fuel + 1) := by
  intro ts
  cases ts with
  | nil => rfl
  | cons token rest =>
    cases token with
    | openArray =>
      simp only [readValue]
      split
      · exact ⟨rfl, rfl⟩
      · exact (splits_items _).cons .openArray
    | openObject =>
      simp only [readValue]
      split
      · exact ⟨rfl, rfl⟩
      · exact (splits_members _).cons .openObject
    | null | bool | number | string => exact ⟨rfl, rfl⟩
    | closeArray | closeObject | comma | colon | bad => rfl

theorem splitsItems_succ (splits_values : SplitsValues fuel) (splits_items : SplitsItems fuel) :
    SplitsItems (fuel + 1) := by
  intro ts
  have value := splits_values ts
  rw [readItems]
  split
  · next item rest value_eq =>
    rw [value_eq] at value
    have both := value.append (splits_items rest)
    obtain ⟨other, others, items_eq⟩ := exists_readItems fuel rest
    have tokens_eq : itemTokens (item :: (readItems fuel rest).1) ++ [.closeArray] =
        item.tokens ++ .comma :: (itemTokens (readItems fuel rest).1 ++ [.closeArray]) := by
      rw [items_eq, itemTokens_cons, List.append_assoc]
      rfl
    rw [← tokens_eq] at both
    exact both
  · next item rest value_eq =>
    rw [value_eq] at value
    exact value.snoc
  · next item _ _ _ _ =>
    exact Bool.and_false item.readable
  · next item value_eq =>
    rw [value_eq] at value
    exact Bool.and_eq_false_imp.2 fun readable => absurd (readable.symm.trans value) (by decide)

theorem splitsMembers_succ (splits_values : SplitsValues fuel)
    (splits_members : SplitsMembers fuel) : SplitsMembers (fuel + 1) := by
  intro ts
  unfold readMembers
  split
  · rfl
  · next _ name rest same =>
    cases same
    have value := splits_values rest
    split
    · next tree later value_eq =>
      rw [value_eq] at value
      have both := ((value.append (splits_members later)).cons .colon).cons (.string name)
      obtain ⟨other, others, members_eq⟩ := exists_readMembers fuel later
      have tokens_eq : memberTokens ((string name, tree) :: (readMembers fuel later).1) ++
          [.closeObject] = .string name :: .colon :: (tree.tokens ++ .comma ::
            (memberTokens (readMembers fuel later).1 ++ [.closeObject])) := by
        rw [members_eq, memberTokens_cons, tokens]
        simp only [List.append_assoc, List.cons_append, List.nil_append]
      rw [← tokens_eq] at both
      exact both
    · next tree later value_eq =>
      rw [value_eq] at value
      exact (value.snoc.cons .colon).cons (.string name)
    · next tree _ _ _ _ => exact Bool.and_false tree.readable
    · next tree value_eq =>
      rw [value_eq] at value
      exact Bool.and_eq_false_imp.2 fun readable => absurd (readable.symm.trans value) (by decide)
  · rfl
  · next token _ _ _ _ => cases token <;> rfl
  · rfl

end

theorem split_read (fuel : Nat) : SplitsValues fuel ∧ SplitsItems fuel ∧ SplitsMembers fuel := by
  induction fuel with
  | zero => exact ⟨fun _ => rfl, fun _ => rfl, fun _ => rfl⟩
  | succ fuel ih =>
    obtain ⟨values, items, members⟩ := ih
    exact ⟨splitsValues_succ items members, splitsItems_succ values items,
      splitsMembers_succ values members⟩

/-- **What a text is read as.**  A text is read as a tree without fault exactly if the tokens of the
text are those of the tree. -/
theorem read_eq_iff {text : String} {tree : Tree} (readable : tree.readable = true) :
    read text = ⟨tree, false⟩ ↔ Token.scan text.toList = tree.tokens := by
  constructor
  · intro read_eq
    have split := (split_read (2 * (Token.scan text.toList).length + 1)).1 (Token.scan text.toList)
    simp only [read] at read_eq
    generalize readValue (2 * (Token.scan text.toList).length + 1) (Token.scan text.toList) = result
      at split read_eq
    obtain ⟨own, left⟩ := result
    cases left with
    | none =>
      cases read_eq
      exact absurd (readable.symm.trans split) (by decide)
    | some rest =>
      obtain ⟨rfl, none⟩ := Document.mk.inj read_eq
      obtain rfl : rest = [] := by simpa using none
      rw [split.2, List.append_nil]
  · intro tokens_eq
    have all := (reads_tokens (2 * tree.tokens.length + 1)).1 tree [] readable (by omega)
    rw [List.append_nil] at all
    simp only [read, tokens_eq, all]
    rfl

mutual

theorem bad_not_mem_tokens : (tree : Tree) → .bad ∉ tree.tokens
  | .null | .bool _ | .number _ | .string _ | .broken => by simp [tokens]
  | .array items => by simp [tokens, bad_not_mem_itemTokens items]
  | .object members => by simp [tokens, bad_not_mem_memberTokens members]

theorem bad_not_mem_itemTokens : (items : List Tree) → .bad ∉ itemTokens items
  | [] => List.not_mem_nil
  | [item] => bad_not_mem_tokens item
  | item :: other :: rest => by
    rw [itemTokens_cons]
    simp [bad_not_mem_tokens item, bad_not_mem_itemTokens (other :: rest)]

theorem bad_not_mem_memberTokens : (members : List (Tree × Tree)) → .bad ∉ memberTokens members
  | [] => List.not_mem_nil
  | [(name, value)] => by simp [memberTokens, bad_not_mem_tokens name, bad_not_mem_tokens value]
  | (name, value) :: other :: rest => by
    rw [memberTokens_cons]
    simp [bad_not_mem_tokens name, bad_not_mem_tokens value,
      bad_not_mem_memberTokens (other :: rest)]

end

/-- Named trees as the members of an object. -/
def keyed (members : List (String × Tree)) : List (Tree × Tree) :=
  members.map fun member => (.string (some member.1), member.2)

end Tree

/-! ## Texts that are put together -/

/-- A text of a tree. -/
structure Written (text : String) (tree : Tree) : Prop where
  readable : tree.readable = true
  read_eq : Tree.read text = ⟨tree, false⟩

/-- The text of an array with items of these texts. -/
def arrayText (items : List String) : String := "[" ++ commas items ++ "]"

/-- The text of a member with a value of this text. -/
def memberText (member : String × String) : String := quote member.1 ++ (":" ++ member.2)

/-- The text of an object with members of these texts. -/
def objectText (members : List (String × String)) : String :=
  "\x7b" ++ commas (members.map memberText) ++ "\x7d"

/-- The text of a tree may stand in a longer one. -/
theorem Written.spelled {text : String} {tree : Tree} (written : Written text tree) :
    Spelled text tree.tokens :=
  spelled_of_scan ((Tree.read_eq_iff written.readable).1 written.read_eq) tree.bad_not_mem_tokens

theorem Spelled.written {text : String} {tree : Tree} (spelled : Spelled text tree.tokens)
    (readable : tree.readable = true) : Written text tree :=
  ⟨readable, (Tree.read_eq_iff readable).2 spelled.scan_eq⟩

theorem written_quote (s : String) : Written (quote s) (.string (some s)) :=
  (delimited_quote s).spelled.written rfl

theorem written_nat {n : Nat} (small : n < UInt64.size) :
    Written (toString n) (.number (some (.whole n))) :=
  (spelled_nat small).written rfl

theorem written_int {n : Int} (least : Int64.minValue.toInt ≤ n) (most : n < UInt64.size) :
    Written (toString n) (.number (some (.whole n))) :=
  (spelled_int least most).written rfl

theorem written_null : Written "null" .null := delimited_null.spelled.written rfl

theorem commas_cons {text other : String} {rest : List String} :
    commas (text :: other :: rest) = text ++ ("," ++ commas (other :: rest)) := by
  rw [commas, commas, String.intercalate_cons_cons, String.append_assoc]

theorem commas_singleton (text : String) : commas [text] = text := String.intercalate_singleton

/-- A part of a text is closed by the comma behind it. -/
theorem Spelled.append_comma {text more : String} {tokens later : List Token}
    (spelled : Spelled text tokens) (spelled_more : Spelled more later) :
    Spelled (text ++ ("," ++ more)) (tokens ++ .comma :: later) := by
  refine spelled.append (delimited_comma.append spelled_more) ?_
  rw [String.toList_append]
  exact Token.closed_cons.2 (by decide)

theorem written_items {texts : List String} {trees : List Tree}
    (written : List.Forall₂ Written texts trees) :
    Tree.allReadable trees = true ∧ Spelled (commas texts) (Tree.itemTokens trees) := by
  induction written with
  | nil => exact ⟨rfl, spelled_empty⟩
  | @cons text tree texts trees first rest ih =>
    obtain ⟨readable, spelled⟩ := ih
    refine ⟨Bool.and_eq_true_iff.2 ⟨first.readable, readable⟩, ?_⟩
    cases rest with
    | nil =>
      rw [commas_singleton]
      exact first.spelled
    | cons second rest =>
      rw [commas_cons, Tree.itemTokens_cons]
      exact first.spelled.append_comma spelled

/-- **An array is written as its items are.** -/
theorem Written.array {texts : List String} {trees : List Tree}
    (written : List.Forall₂ Written texts trees) : Written (arrayText texts) (.array trees) := by
  obtain ⟨readable, spelled⟩ := written_items written
  refine Spelled.written ?_ readable
  rw [arrayText, String.append_assoc, Tree.tokens]
  refine delimited_openArray.append (spelled.append delimited_closeArray.spelled ?_)
  exact Token.closed_cons.2 (by decide)

theorem written_members {texts : List (String × String)} {members : List (String × Tree)}
    (written : List.Forall₂ (fun text member => text.1 = member.1 ∧ Written text.2 member.2)
      texts members) :
    Tree.allMembersReadable (Tree.keyed members) = true ∧
      Spelled (commas (texts.map memberText)) (Tree.memberTokens (Tree.keyed members)) := by
  induction written with
  | nil => exact ⟨rfl, spelled_empty⟩
  | @cons text member texts members first rest ih =>
    obtain ⟨name, value⟩ := text
    obtain ⟨other, tree⟩ := member
    obtain ⟨rfl, written⟩ := first
    obtain ⟨readable, spelled⟩ := ih
    refine ⟨Bool.and_eq_true_iff.2 ⟨written.readable, readable⟩, ?_⟩
    have own : Spelled (memberText (name, value)) (.string (some name) :: .colon :: tree.tokens) :=
      (delimited_quote name).append (delimited_colon.append written.spelled)
    cases rest with
    | nil =>
      rw [List.map_cons, List.map_nil, commas_singleton]
      exact own
    | cons second rest =>
      have both := own.append_comma spelled
      rw [List.map_cons, ← commas_cons] at both
      exact both

/-- **An object is written as its members are.** -/
theorem Written.object {texts : List (String × String)} {members : List (String × Tree)}
    (written : List.Forall₂ (fun text member => text.1 = member.1 ∧ Written text.2 member.2)
      texts members) : Written (objectText texts) (.object (Tree.keyed members)) := by
  obtain ⟨readable, spelled⟩ := written_members written
  refine Spelled.written ?_ readable
  rw [objectText, String.append_assoc, Tree.tokens]
  refine delimited_openObject.append (spelled.append delimited_closeObject.spelled ?_)
  exact Token.closed_cons.2 (by decide)

end Lookout.Json
