import Lookout.Binary
import Lookout.Json.Printer
import Lookout.Json.Tree
import Lookout.Text.Quoted

/-!
# Decoding JSON into typed values

Decoders walk a tree from left to right and stop at the first fault: text that is no JSON, or a
value that does not fit.  The same decoders serve text as it arrives and values that have been
read before; the two differ only in what is said about an array with too many items.

## Main definitions

* `Json.Mismatch`, `Json.Fault` — why decoding fails, and `Json.Mismatch.message`.
* `Json.Tree.whole`, `single`, `double`, `text`, `optional`, `fixed`, `variant` — the decoders of
  plain values.
* `Json.foldMembers` — the walk over the members of an object.
-/

namespace Lookout.Json

/-- What a decoder met, as far as a message tells. -/
inductive Found where
  | null
  | bool (b : Bool)
  | number (n : Number)
  | string (s : String)
  | sequence
  | map
  | unitVariant

/-- How a well-formed value fails to fit. -/
inductive Mismatch where
  | missingField (name : String)
  | duplicateField (name : String)
  | type (found : Found) (wanted : String)
  | range (n : Int) (wanted : String)
  | length (n : Nat) (wanted : String)
  | unknownVariant (name : String) (known : List String)
  | noVariant (name : String)

/-- Why a tree cannot be decoded. -/
inductive Fault where
  /-- the text is no JSON -/
  | malformed
  | mismatch (m : Mismatch)

/-- A text between backticks. -/
def ticked (s : String) : String := "`" ++ s ++ "`"

/-- How a message names what was met. -/
def Found.describe : Found → String
  | .null => "null"
  | .bool b => "boolean " ++ ticked (if b then "true" else "false")
  | .number (.whole n) => "integer " ++ ticked (toString n)
  | .number (.float x) => "floating point " ++ ticked (Layout.json.write x)
  | .string s => "string " ++ Text.quoted s
  | .sequence => "sequence"
  | .map => "map"
  | .unitVariant => "unit variant"

/-- The list of known names in a message. -/
def oneOf : List String → String
  | [a] => ticked a
  | [a, b] => ticked a ++ " or " ++ ticked b
  | names => "one of " ++ ", ".intercalate (names.map ticked)

/-- The wording of a mismatch. -/
def Mismatch.message : Mismatch → String
  | .missingField name => "missing field " ++ ticked name
  | .duplicateField name => "duplicate field " ++ ticked name
  | .type found wanted => "invalid type: " ++ found.describe ++ ", expected " ++ wanted
  | .range n wanted =>
    "invalid value: integer " ++ ticked (toString n) ++ ", expected " ++ wanted
  | .length n wanted => "invalid length " ++ toString n ++ ", expected " ++ wanted
  | .unknownVariant name known =>
    "unknown variant " ++ ticked name ++ ", expected " ++ oneOf known
  | .noVariant name => "data did not match any variant of untagged enum " ++ name

/-- Where a tree comes from: text that is decoded while it is read, or a value that was read
before. -/
inductive Origin where
  | text
  | value
deriving DecidableEq

/-- A mismatch as the outcome of decoding. -/
def mismatch {α : Type} (m : Mismatch) : Except Fault α := .error (.mismatch m)

/-- Decodes a value at most once for each name. -/
def once {α : Type} (name : String) (slot : Option α) (decode : Except Fault α) :
    Except Fault (Option α) :=
  if slot.isSome then mismatch (.duplicateField name) else decode.map some

/-- The value of a field that must be there. -/
def required {α : Type} (name : String) : Option α → Except Fault α
  | some a => .ok a
  | none => mismatch (.missingField name)

namespace Tree

/-- What a message says was met; scalars without a value are faults of the text. -/
def found : Tree → Except Fault Found
  | .null => .ok .null
  | .bool b => .ok (.bool b)
  | .number (some n) => .ok (.number n)
  | .string (some s) => .ok (.string s)
  | .array _ => .ok .sequence
  | .object _ => .ok .map
  | .number none | .string none | .broken => .error .malformed

/-- The tree is of another type than the one wanted. -/
def refuse {α : Type} (wanted : String) (tree : Tree) : Except Fault α := do
  mismatch (.type (← tree.found) wanted)

/-- A whole number between two bounds. -/
def whole (least greatest : Int) (wanted : String) : Tree → Except Fault Int
  | .number (some (.whole n)) =>
    if least ≤ n ∧ n ≤ greatest then .ok n else mismatch (.range n wanted)
  | tree => tree.refuse wanted

/-- A natural number below `2 ^ width`. -/
def word (width : Nat) (wanted : String) (tree : Tree) : Except Fault Nat :=
  (tree.whole 0 (Nat.pow 2 width - 1 : Nat) wanted).map Int.toNat

/-- A number as a single-precision float. -/
def single : Tree → Except Fault Float32
  | .number (some (.whole n)) => .ok (narrowInt n)
  | .number (some (.float x)) => .ok (narrow x)
  | tree => tree.refuse "f32"

/-- A number as a double-precision float. -/
def double : Tree → Except Fault Float
  | .number (some (.whole n)) => .ok (Float.ofInt n)
  | .number (some (.float x)) => .ok x
  | tree => tree.refuse "f64"

/-- A string. -/
def text : Tree → Except Fault String
  | .string (some s) => .ok s
  | tree => tree.refuse "a string"

/-- Nothing for `null`, and the decoded value for everything else. -/
def optional {α : Type} (decode : Tree → Except Fault α) : Tree → Except Fault (Option α)
  | .null => .ok none
  | tree => (decode tree).map some

/-- Passes over a value that nobody wants. -/
def skip (tree : Tree) : Except Fault Unit :=
  if tree.readable then .ok () else .error .malformed

/-- An array must end here; `total` is how many items it has. -/
def noMore (origin : Origin) (total : Nat) (rest : List Tree) : Except Fault Unit :=
  match rest, origin with
  | [], _ => .ok ()
  | _ :: _, .text => .error .malformed
  | _ :: _, .value => mismatch (.length total "fewer elements in array")

/-- Decodes `count` items, counting from `index`. -/
def take {α : Type} (decode : Tree → Except Fault α) (wanted : String) :
    Nat → (count : Nat) → List Tree → Except Fault (Vector α count × List Tree)
  | _, 0, rest => .ok (⟨.empty, rfl⟩, rest)
  | index, _ + 1, [] => mismatch (.length index wanted)
  | index, count + 1, item :: rest => do
    let a ← decode item
    let (others, rest) ← take decode wanted (index + 1) count rest
    .ok (⟨(a :: others.toList).toArray, by simp⟩, rest)

/-- An array of exactly `count` items. -/
def fixed {α : Type} (origin : Origin) (count : Nat) (decode : Tree → Except Fault α) :
    Tree → Except Fault (Vector α count)
  | .array items => do
    let (decoded, rest) ← take decode ("an array of length " ++ toString count) 0 count items
    noMore origin items.length rest
    .ok decoded
  | tree => tree.refuse ("an array of length " ++ toString count)

/-- The name of a variant and, where it is written as an object, its content and what follows. -/
def variant (known : List String) :
    Tree → Except Fault (String × Option (Tree × List (Tree × Tree)))
  | .string (some name) =>
    if known.contains name then .ok (name, none) else mismatch (.unknownVariant name known)
  | .object ((.string (some name), content) :: rest) =>
    if known.contains name then .ok (name, some (content, rest))
    else mismatch (.unknownVariant name known)
  | .object ((key, _) :: _) => key.refuse "variant identifier"
  | _ => .error .malformed

/-- The name of a variant without content, which may also be written as an object that maps the
name to `null`. -/
def unitVariant (known : List String) (tree : Tree) : Except Fault String := do
  match ← tree.variant known with
  | (name, none) => .ok name
  | (name, some (.null, [])) => .ok name
  | (_, some (.null, _ :: _)) => .error .malformed
  | (_, some (content, _)) => content.refuse "unit"

end Tree

/-- Walks over the members of an object in the order of the text. -/
def foldMembers {α : Type} (step : α → String → Tree → Except Fault α) :
    α → List (Tree × Tree) → Except Fault α
  | a, [] => .ok a
  | a, (.string (some name), value) :: rest => do foldMembers step (← step a name value) rest
  | _, _ :: _ => .error .malformed

/-- Decodes a whole text: the first fault inside wins over anything that follows. -/
def decodeText {α : Type} (decode : Tree → Except Fault α) (text : String) : Except Fault α := do
  let document := Tree.read text
  let a ← decode document.tree
  if document.trailing then .error .malformed else .ok a

end Lookout.Json
