import Lookout.Config.Schema

/-!
# Configurations in JSON

A section is an object, whose unknown members are ignored, or an array of its values in order.
What is left out keeps its default.

## Main definitions

* `Config.ofJson` — reads and validates a configuration.
-/

namespace Lookout.Config

/-- Reads one member into a section; `seen` are the names read before. -/
def readMember {α : Type} (fields : List (Field Json.Tree Json.Fault α))
    (state : α × List String) (name : String) (value : Json.Tree) :
    Except Json.Fault (α × List String) :=
  match fields.find? (·.name == name) with
  | none => value.skip.map fun _ => state
  | some field =>
    if state.2.contains name then Json.mismatch (.duplicateField name)
    else (field.read value state.1).map (·, name :: state.2)

/-- Reads a section over its defaults. -/
def readSection {α : Type} (type : String) (fields : List (Field Json.Tree Json.Fault α))
    (defaults : α) : Json.Tree → Except Json.Fault α
  | .object members => (Json.foldMembers (readMember fields) (defaults, []) members).map (·.1)
  | .array items => do
    let (read, rest) ← readItems fields items defaults
    Json.Tree.noMore .value items.length rest
    .ok read
  | tree => tree.refuse ("struct " ++ type)

/-- How JSON is read. -/
def jsonReader : Reader Json.Tree Json.Fault where
  optionalText := Json.Tree.optional Json.Tree.text
  long := (·.word 64 "u64")
  optionalLong := Json.Tree.optional (·.word 64 "u64")
  size := (·.word 64 "usize")
  short := (·.word 32 "u32")
  double := Json.Tree.double
  record := readSection

/-- Reads and validates a configuration. -/
def ofJson (value : Json) : Except Error Config :=
  (jsonReader.config value.toTree).mapError Error.ofFault >>= validated

end Lookout.Config
