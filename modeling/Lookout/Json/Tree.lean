import Lookout.Json.Token

/-!
# JSON text as written

A `Tree` keeps what the text says and a `Json` value forgets: the order of members, members that
are written twice, and the place where the text breaks off.  A decoder that walks a tree from left
to right therefore meets the first fault of a text first, whether it is a fault of spelling or a
value that does not fit.

## Main definitions

* `Json.Tree` — a text as written, `Json.Tree.read` — reads one.
* `Json.Tree.value?` — the value, if the whole tree is well formed and not too deep.
* `Json.Tree.readable` — whether the tree can be skipped.
* `Json.toTree` — a value as a tree.
* `Json.parse?` — the value that a text holds.
-/

namespace Lookout.Json

/-- A JSON text as written. -/
inductive Tree where
  | null
  | bool (b : Bool)
  | number (n : Option Number)
  | string (s : Option String)
  | array (items : List Tree)
  /-- the members in the order of the text; a name that is no string breaks the text off -/
  | object (members : List (Tree × Tree))
  /-- the text breaks off here -/
  | broken

/-- A whole text: what it says, and whether anything follows that should not. -/
structure Document where
  tree : Tree
  trailing : Bool

namespace Tree

instance : Inhabited Tree := ⟨broken⟩

/-- The tree that a token starts, where no value is read any further. -/
def head : Token → Tree
  | .null => .null
  | .bool b => .bool b
  | .number n => .number n
  | .openArray => .array [.broken]
  | .openObject => .object [(.broken, .broken)]
  | _ => .broken

mutual

/-- Reads a value and gives back the tokens behind it, or nothing where the text breaks off. -/
def readValue : Nat → List Token → Tree × Option (List Token)
  | 0, _ => (.broken, none)
  | fuel + 1, .openArray :: rest =>
    match rest with
    | .closeArray :: rest => (.array [], some rest)
    | rest => let (items, rest) := readItems fuel rest; (.array items, rest)
  | fuel + 1, .openObject :: rest =>
    match rest with
    | .closeObject :: rest => (.object [], some rest)
    | rest => let (members, rest) := readMembers fuel rest; (.object members, rest)
  | _ + 1, .null :: rest => (.null, some rest)
  | _ + 1, .bool b :: rest => (.bool b, some rest)
  | _ + 1, .number n :: rest => (.number n, some rest)
  | _ + 1, .string s :: rest => (.string s, some rest)
  | _ + 1, _ => (.broken, none)

/-- Reads the items of an array up to its end. -/
def readItems : Nat → List Token → List Tree × Option (List Token)
  | 0, _ => ([.broken], none)
  | fuel + 1, tokens =>
    match readValue fuel tokens with
    | (item, some (.comma :: rest)) =>
      let (items, rest) := readItems fuel rest
      (item :: items, rest)
    | (item, some (.closeArray :: rest)) => ([item], some rest)
    | (item, some _) => ([item, .broken], none)
    | (item, none) => ([item], none)

/-- Reads the members of an object up to its end. -/
def readMembers : Nat → List Token → List (Tree × Tree) × Option (List Token)
  | 0, _ => ([(.broken, .broken)], none)
  | fuel + 1, .string name :: .colon :: rest =>
    match readValue fuel rest with
    | (value, some (.comma :: rest)) =>
      let (members, rest) := readMembers fuel rest
      ((.string name, value) :: members, rest)
    | (value, some (.closeObject :: rest)) => ([(.string name, value)], some rest)
    | (value, some _) => ([(.string name, value), (.broken, .broken)], none)
    | (value, none) => ([(.string name, value)], none)
  | _ + 1, .string name :: _ => ([(.string name, .broken)], none)
  | _ + 1, token :: _ => ([(head token, .broken)], none)
  | _ + 1, [] => ([(.broken, .broken)], none)

end

/-- Reads a text.  Every call takes at least one token, so twice as many calls as tokens are
enough. -/
def read (text : String) : Document :=
  let tokens := Token.scan text.toList
  match readValue (2 * tokens.length + 1) tokens with
  | (tree, some rest) => ⟨tree, !rest.isEmpty⟩
  | (tree, none) => ⟨tree, false⟩

mutual

/-- The value of a well-formed tree, with at most `room` arrays and objects inside each other. -/
def value? : Nat → Tree → Option Json
  | _, .null => some .null
  | _, .bool b => some (.bool b)
  | _, .number n => n.map .number
  | _, .string s => s.map .string
  | 0, .array _ => none
  | room + 1, .array items => (values? room items).map .array
  | 0, .object _ => none
  | room + 1, .object members => (memberValues? room members).map .ofMembers
  | _, .broken => none

/-- The values of all items. -/
def values? : Nat → List Tree → Option (List Json)
  | _, [] => some []
  | room, item :: rest => do
    let item ← value? room item
    let rest ← values? room rest
    some (item :: rest)

/-- The values of all members, in the order of the text. -/
def memberValues? : Nat → List (Tree × Tree) → Option (List (String × Json))
  | _, [] => some []
  | room, (.string (some name), member) :: rest => do
    let member ← value? room member
    let rest ← memberValues? room rest
    some ((name, member) :: rest)
  | _, _ :: _ => none

end

mutual

/-- Whether a reader that skips the tree gets to its end: numbers may be too large, strings may
hold half a surrogate pair, and no depth is too much. -/
def readable : Tree → Bool
  | .broken => false
  | .array items => allReadable items
  | .object members => allMembersReadable members
  | _ => true

/-- Whether all items can be skipped. -/
def allReadable : List Tree → Bool
  | [] => true
  | item :: rest => item.readable && allReadable rest

/-- Whether all members can be skipped. -/
def allMembersReadable : List (Tree × Tree) → Bool
  | [] => true
  | (.string _, member) :: rest => member.readable && allMembersReadable rest
  | _ :: _ => false

end

end Tree

mutual

/-- A value as a tree. -/
def toTree : Json → Tree
  | .null => .null
  | .bool b => .bool b
  | .number n => .number (some n)
  | .string s => .string (some s)
  | .array items => .array (itemTrees items)
  | .object members => .object (memberTrees members)

/-- Values as trees. -/
def itemTrees : List Json → List Tree
  | [] => []
  | item :: rest => item.toTree :: itemTrees rest

/-- Members as trees. -/
def memberTrees : List (String × Json) → List (Tree × Tree)
  | [] => []
  | (name, value) :: rest => (.string (some name), value.toTree) :: memberTrees rest

end

/-- How many arrays and objects a text may have inside each other. -/
def maxDepth : Nat := 127

/-- The value that a text holds, if it is well formed and not too deep. -/
def parse? (text : String) : Option Json :=
  let document := Tree.read text
  if document.trailing then none else document.tree.value? maxDepth

end Lookout.Json
