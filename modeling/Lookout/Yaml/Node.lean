import Lookout.Yaml.Token

/-!
# YAML values

A text holds one document at most, and a document one value.  Where a value is left out, as behind
a key with nothing after its colon, stands an empty plain scalar.

## Main definitions

* `Yaml.Node` — a value, `Yaml.Node.empty` — one that is left out.
* `Yaml.Node.ofText?` — the value that a text holds.
-/

namespace Lookout.Yaml

/-- A value. -/
inductive Node where
  | scalar (plain : Bool) (text : String)
  | sequence (items : List Node)
  /-- keys and values in the order of the text, where keys may repeat -/
  | mapping (entries : List (Node × Node))

/-- Where a value stands, which decides what it may be. -/
inductive Place where
  | inBrackets
  | inBlock
  /-- in a block mapping, where a sequence needs no indentation -/
  | inEntry

namespace Node

/-- What stands for a value that is left out. -/
def empty : Node := .scalar true ""

instance : Inhabited Node := ⟨empty⟩

/-! ### Values that are left out -/

/-- Whether an item is left out; `flush` items are those of a sequence in an entry. -/
def noItem (flush : Bool) : Token → Bool
  | .item | .closeBlock => true
  | .key | .value => flush
  | _ => false

/-- Whether a key or value of a block mapping is left out. -/
def noEntry : Token → Bool
  | .key | .value | .closeBlock => true
  | _ => false

/-- Whether a value between brackets is left out. -/
def noFlowValue : Token → Bool
  | .comma | .closeSequence | .closeMapping => true
  | _ => false

/-- Whether a key between brackets is left out. -/
def noFlowKey : Token → Bool
  | .value => true
  | token => noFlowValue token

/-- Whether the key of an item between brackets is left out. -/
def noItemKey : Token → Bool
  | .value | .comma | .closeSequence => true
  | _ => false

/-- What reads a value off the tokens and gives back those behind it. -/
abbrev Reading (α : Type) := List Token → Option (α × List Token)

/-- Reads a value unless the next token shows that it is left out. -/
def orEmpty (leftOut : Token → Bool) (read : Reading Node) : Reading Node := fun tokens =>
  if tokens.head?.any leftOut then some (empty, tokens) else read tokens

/-- Reads the value of an entry, which a colon introduces. -/
def entryValue (leftOut : Token → Bool) (read : Reading Node) : Reading Node
  | .value :: rest => orEmpty leftOut read rest
  | rest => some (empty, rest)

/-- Reads an item between brackets, which may be a single entry.  A key that is left out there
takes the next token away. -/
def flowItem (read : Reading Node) : Reading Node
  | .key :: rest => do
    let (key, rest) ←
      if rest.head?.any noItemKey then some (empty, rest.drop 1) else read rest
    let (value, rest) ← entryValue noFlowValue read rest
    some (.mapping [(key, value)], rest)
  | tokens => read tokens

/-- Reads an entry between brackets. -/
def flowEntry (read : Reading Node) : Reading (Node × Node)
  | .key :: rest => do
    let (key, rest) ← orEmpty noFlowKey read rest
    let (value, rest) ← entryValue noFlowValue read rest
    some ((key, value), rest)
  | tokens => do
    let (key, rest) ← read tokens
    some ((key, empty), rest)

/-! ### Reading -/

mutual

/-- Reads a value. -/
def read : Nat → Place → Reading Node
  | 0, _, _ => none
  | fuel + 1, place, tokens =>
    match place, tokens with
    | _, .scalar plain text :: rest => some (.scalar plain text, rest)
    | _, .openSequence :: rest =>
      (readFlowItems fuel rest).map fun (xs, rest) => (.sequence xs, rest)
    | _, .openMapping :: rest =>
      (readFlowEntries fuel rest).map fun (xs, rest) => (.mapping xs, rest)
    | .inBrackets, _ => none
    | _, .openBlockSequence :: rest =>
      (readItems fuel false rest).map fun (xs, rest) => (.sequence xs, rest)
    | _, .openBlockMapping :: rest =>
      (readEntries fuel rest).map fun (xs, rest) => (.mapping xs, rest)
    | .inEntry, .item :: _ =>
      (readItems fuel true tokens).map fun (xs, rest) => (.sequence xs, rest)
    | _, _ => none

/-- Reads the items of a sequence between brackets, up to its end. -/
def readFlowItems : Nat → Reading (List Node)
  | 0, _ => none
  | _ + 1, .closeSequence :: rest => some ([], rest)
  | fuel + 1, tokens => do
    match ← flowItem (read fuel .inBrackets) tokens with
    | (item, .comma :: rest) =>
      let (items, rest) ← readFlowItems fuel rest
      some (item :: items, rest)
    | (item, .closeSequence :: rest) => some ([item], rest)
    | _ => none

/-- Reads the entries of a mapping between brackets, up to its end. -/
def readFlowEntries : Nat → Reading (List (Node × Node))
  | 0, _ => none
  | _ + 1, .closeMapping :: rest => some ([], rest)
  | fuel + 1, tokens => do
    match ← flowEntry (read fuel .inBrackets) tokens with
    | (entry, .comma :: rest) =>
      let (entries, rest) ← readFlowEntries fuel rest
      some (entry :: entries, rest)
    | (entry, .closeMapping :: rest) => some ([entry], rest)
    | _ => none

/-- Reads the items of a block, up to its end; `flush` items end where no dash follows. -/
def readItems : Nat → (flush : Bool) → Reading (List Node)
  | 0, _, _ => none
  | fuel + 1, flush, .item :: rest => do
    let (item, rest) ← orEmpty (noItem flush) (read fuel .inBlock) rest
    let (items, rest) ← readItems fuel flush rest
    some (item :: items, rest)
  | _ + 1, true, rest => some ([], rest)
  | _ + 1, false, .closeBlock :: rest => some ([], rest)
  | _ + 1, false, _ => none

/-- Reads the entries of a block, up to its end. -/
def readEntries : Nat → Reading (List (Node × Node))
  | 0, _ => none
  | fuel + 1, .key :: rest => do
    let (key, rest) ← orEmpty noEntry (read fuel .inEntry) rest
    let (value, rest) ← entryValue noEntry (read fuel .inEntry) rest
    let (entries, rest) ← readEntries fuel rest
    some ((key, value) :: entries, rest)
  | _ + 1, .closeBlock :: rest => some ([], rest)
  | _ + 1, _ => none

end

/-- Whether a document is over before its value. -/
def noContent : Token → Bool
  | .documentStart | .documentEnd => true
  | _ => false

/-- Whether a token marks the end of a document. -/
def isDocumentEnd : Token → Bool
  | .documentEnd => true
  | _ => false

/-- Reads a document.  Of two calls in each other one takes a token, so twice as many calls as
tokens are enough. -/
def readDocument (tokens : List Token) : Option (Node × List Token) :=
  let value := read (2 * tokens.length + 1) .inBlock
  match tokens with
  | [] => some (empty, [])
  | .documentStart :: [] => some (empty, [])
  | .documentStart :: rest => orEmpty noContent value rest
  | tokens => value tokens

/-- The value that a text holds; a text with two documents holds none. -/
def ofText? (text : String) : Option Node := do
  let (node, rest) ← readDocument (← Token.scan text)
  if rest.all isDocumentEnd then some node else none

end Node

end Lookout.Yaml
