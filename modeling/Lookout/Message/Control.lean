import Lookout.Json.Decode
import Lookout.Message.Request

/-!
# Control messages

What the console sends: a code, and for some codes a parameter.  The text of a message has its
fields in this order and leaves the parameter out when there is none; the reader takes them in any
order, or as an array.

## Main definitions

* `ControlMessage` with `ControlMessage.request` and `ControlMessage.heartbeat`.
* `ControlMessage.text` — the text that travels, `ControlMessage.ofText` — reads one.
-/

namespace Lookout

/-- A message to the device. -/
structure ControlMessage where
  kind : Int
  param : Option Json

namespace ControlMessage

/-- A request of a known kind. -/
def request (kind : RequestKind) (param : Option Json) : ControlMessage := ⟨kind.code, param⟩

/-- The sign of life that is sent while the link is open. -/
def heartbeat : ControlMessage := ⟨LinkCode.heartbeat, none⟩

/-- The text of a message. -/
def text (m : ControlMessage) : String :=
  "\x7b\"kind\":" ++ toString m.kind ++
    (match m.param with
      | none => ""
      | some param => ",\"param\":" ++ param.print) ++ "\x7d"

/-- The fields read so far. -/
structure Draft where
  kind : Option Int
  param : Option (Option Json)

/-- Reads the code of a message. -/
def kindOf (tree : Json.Tree) : Except Json.Fault Int :=
  tree.whole Int64.minValue.toInt Int64.maxValue.toInt "i64"

/-- Reads a parameter; `null` is no parameter. -/
def paramOf (tree : Json.Tree) : Except Json.Fault (Option Json) :=
  match tree.value? (Json.maxDepth - 1) with
  | none => .error .malformed
  | some .null => .ok none
  | some param => .ok (some param)

/-- Reads one member. -/
def member (draft : Draft) (name : String) (value : Json.Tree) : Except Json.Fault Draft := do
  if name = "kind" then
    .ok { draft with kind := ← Json.once "kind" draft.kind (kindOf value) }
  else if name = "param" then
    .ok { draft with param := ← Json.once "param" draft.param (paramOf value) }
  else
    value.skip
    .ok draft

/-- Reads a message. -/
def ofTree : Json.Tree → Except Json.Fault ControlMessage
  | .object members => do
    let draft ← Json.foldMembers member ⟨none, none⟩ members
    let kind ← Json.required "kind" draft.kind
    .ok ⟨kind, draft.param.join⟩
  | .array [] => Json.mismatch (.length 0 "struct ControlMessage with 2 elements")
  | .array [kind] => do .ok ⟨← kindOf kind, none⟩
  | .array (kind :: param :: rest) => do
    let kind ← kindOf kind
    let param ← paramOf param
    Json.Tree.noMore .text (rest.length + 2) rest
    .ok ⟨kind, param⟩
  | tree => tree.refuse "struct ControlMessage"

/-- Reads the text of a message. -/
def ofText (text : String) : Except Json.Fault ControlMessage := Json.decodeText ofTree text

end ControlMessage

end Lookout
