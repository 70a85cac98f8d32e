import Lookout.Bytes
import Lookout.Config.Schema
import Lookout.Yaml.Node

/-!
# Configurations in YAML

A section is a mapping, whose unknown keys are ignored, or a sequence of its values in order.  A
section that is left out, or has nothing behind its colon, keeps its defaults.

## Main definitions

* `Config.ofYaml` — reads and validates a configuration.
* `Config.ofFileContent` — the same for the bytes of a file.
-/

namespace Lookout.Config

open Yaml (Node)

/-- A text that is no configuration. -/
def malformedYaml {α : Type} : Except Error α := .error (.malformed .yaml)

/-- Accepts a value that could be read. -/
def orMalformed {α : Type} : Option α → Except Error α
  | some a => .ok a
  | none => malformedYaml

/-- The text of a scalar, quoted or not. -/
def yamlText : Node → Except Error String
  | .scalar _ text => .ok text
  | _ => malformedYaml

/-- Reads a plain scalar by its spelling. -/
def yamlPlain {α : Type} (spelled : String → Option α) : Node → Except Error α
  | .scalar true text => orMalformed (spelled text)
  | _ => malformedYaml

/-- Reads a value that may be nothing. -/
def yamlOptional {α : Type} (read : Node → Except Error α) : Node → Except Error (Option α)
  | .scalar true text =>
    if text.isEmpty || Yaml.isNull text then .ok none else (read (.scalar true text)).map some
  | node => (read node).map some

/-- Reads one entry into a section; `seen` are the names read before. -/
def readEntry {α : Type} (fields : List (Field Node Error α)) :
    α × List String → Node × Node → Except Error (α × List String)
  | (whole, seen), (.scalar _ name, value) =>
    match fields.find? (·.name == name) with
    | none => .ok (whole, seen)
    | some field =>
      if seen.contains name then malformedYaml
      else (field.read value whole).map (·, name :: seen)
  | _, _ => malformedYaml

/-- Reads a section over its defaults. -/
def readYamlSection {α : Type} (fields : List (Field Node Error α)) (defaults : α) :
    Node → Except Error α
  | .mapping entries => (entries.foldlM (readEntry fields) (defaults, [])).map (·.1)
  | .sequence items => do
    let (read, rest) ← readItems fields items defaults
    if rest.isEmpty then .ok read else malformedYaml
  | .scalar plain text => if plain && text.isEmpty then .ok defaults else malformedYaml

/-- How YAML is read. -/
def yamlReader : Reader Node Error where
  optionalText := yamlOptional yamlText
  long := yamlPlain Yaml.whole?
  optionalLong := yamlOptional (yamlPlain Yaml.whole?)
  size := yamlPlain Yaml.whole?
  short := yamlPlain fun text => (Yaml.whole? text).filter (· < UInt32.size)
  double := yamlPlain Yaml.float?
  record _ := readYamlSection

/-- Reads and validates a configuration. -/
def ofYaml (text : String) : Except Error Config := do
  validated (← yamlReader.config (← orMalformed (Node.ofText? text)))

/-- Reads and validates the configuration that a file holds. -/
def ofFileContent (path : String) (content : Bytes) : Except Error Config :=
  match String.fromUTF8? ⟨content.toArray⟩ with
  | some text => ofYaml text
  | none => .error (.file path .notText)

end Lookout.Config
