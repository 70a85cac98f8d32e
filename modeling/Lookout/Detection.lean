import Lookout.Json.Decode

/-!
# Detected objects

One detected object on a video frame: where it is, what it is, and how sure the device is.  Its
devices write it in two shapes, `bbox`, `score`, `id`, `name` and `bbox`, `prob`, `label`,
`class_name`, and the console itself in a third; one reader serves all of them.

## Main definitions

* `Detection` — a detected object.
* `Detection.ofTree` — reads any shape, `Detection.print` — writes the console's own.
* `Payload` — what an algorithm found on a frame, with its reader and writer.
-/

namespace Lookout

/-- A detected object. -/
structure Detection where
  /-- left, top, right and bottom edge in pixels of the source video -/
  bbox : Vector Float32 4
  /-- name of the class, empty if the device gives none -/
  label : String
  /-- number of the class -/
  classId : Option Nat
  /-- confidence -/
  score : Float32

namespace Detection

/-- The content of a `label`: the number of the class or its name. -/
inductive Label where
  | id (n : Nat)
  | text (s : String)

/-- The fields read so far. -/
structure Draft where
  bbox : Option (Vector Float32 4)
  name : Option (Option String)
  label : Option (Option Label)
  id : Option (Option Nat)
  score : Option Float32

/-- No field has been read. -/
def Draft.empty : Draft := ⟨none, none, none, none, none⟩

/-- Reads a box: four numbers. -/
def bboxOf (origin : Json.Origin) : Json.Tree → Except Json.Fault (Vector Float32 4) :=
  Json.Tree.fixed origin 4 Json.Tree.single

/-- Reads a class number. -/
def idOf : Json.Tree → Except Json.Fault (Option Nat) := Json.Tree.optional (·.word 32 "u32")

/-- Reads a class name. -/
def nameOf : Json.Tree → Except Json.Fault (Option String) := Json.Tree.optional Json.Tree.text

/-- Reads a label: a class number, or else a name.  The whole value is read before it is looked
at, so it must be well formed, with at most `room` containers inside each other. -/
def labelOf (room : Nat) : Json.Tree → Except Json.Fault (Option Label) :=
  Json.Tree.optional fun tree =>
    match tree.value? room with
    | none => .error .malformed
    | some (.number (.whole n)) =>
      if 0 ≤ n ∧ n < UInt32.size then .ok (.id n.toNat) else Json.mismatch (.noVariant "WireLabel")
    | some (.string s) => .ok (.text s)
    | some _ => Json.mismatch (.noVariant "WireLabel")

/-- Reads one member under any of its names. -/
def member (origin : Json.Origin) (room : Nat) (draft : Draft) (name : String)
    (value : Json.Tree) : Except Json.Fault Draft := do
  if name = "bbox" then
    .ok { draft with bbox := ← Json.once "bbox" draft.bbox (bboxOf origin value) }
  else if name = "name" ∨ name = "class_name" then
    .ok { draft with name := ← Json.once "name" draft.name (nameOf value) }
  else if name = "label" then
    .ok { draft with label := ← Json.once "label" draft.label (labelOf room value) }
  else if name = "id" ∨ name = "class_id" then
    .ok { draft with id := ← Json.once "id" draft.id (idOf value) }
  else if name = "score" ∨ name = "prob" then
    .ok { draft with score := ← Json.once "score" draft.score value.single }
  else
    value.skip
    .ok draft

/-- Makes the object of its fields: a name wins over a textual label, and a class number over a
numeric one. -/
def Draft.finish (draft : Draft) (bbox : Vector Float32 4) : Detection :=
  let labelText := match draft.label.join with
    | some (.text s) => some s
    | _ => none
  let labelId := match draft.label.join with
    | some (.id n) => some n
    | _ => none
  { bbox
    label := (draft.name.join <|> labelText).getD ""
    classId := draft.id.join <|> labelId
    score := draft.score.getD 0 }

/-- Reads the fields of an array, in the order box, name, label, class number, score. -/
def positional (origin : Json.Origin) (room : Nat) (items : List Json.Tree) :
    Except Json.Fault (Draft × List Json.Tree) := do
  match items with
  | [] => Json.mismatch (.length 0 "struct WireDetection with 5 elements")
  | bbox :: rest =>
    let draft := { Draft.empty with bbox := some (← bboxOf origin bbox) }
    match rest with
    | [] => .ok (draft, [])
    | name :: rest =>
      let draft := { draft with name := some (← nameOf name) }
      match rest with
      | [] => .ok (draft, [])
      | label :: rest =>
        let draft := { draft with label := some (← labelOf room label) }
        match rest with
        | [] => .ok (draft, [])
        | id :: rest =>
          let draft := { draft with id := some (← idOf id) }
          match rest with
          | [] => .ok (draft, [])
          | score :: rest => .ok ({ draft with score := some (← score.single) }, rest)

/-- Reads an object.  `room` is how many containers it may hold inside each other. -/
def ofTree (origin : Json.Origin) (room : Nat) : Json.Tree → Except Json.Fault Detection
  | .object members => do
    let draft ← Json.foldMembers (member origin room) Draft.empty members
    let bbox ← Json.required "bbox" draft.bbox
    .ok (draft.finish bbox)
  | .array items => do
    let (draft, rest) ← positional origin room items
    Json.Tree.noMore origin items.length rest
    let bbox ← Json.required "bbox" draft.bbox
    .ok (draft.finish bbox)
  | tree => tree.refuse "struct WireDetection"

/-- Reads a list of objects. -/
def listOfTree (origin : Json.Origin) (room : Nat) :
    Json.Tree → Except Json.Fault (List Detection)
  | .array items => items.mapM (ofTree origin room)
  | tree => tree.refuse "a sequence"

/-- Reads the text of an object. -/
def ofText (text : String) : Except Json.Fault Detection :=
  Json.decodeText (ofTree .text (Json.maxDepth - 1)) text

/-- The text of an object, in the console's own shape. -/
def print (d : Detection) : String :=
  "\x7b\"bbox\":[" ++ Json.commas (d.bbox.toList.map Layout.jsonSingle.writeSingle) ++
    "],\"label\":" ++ Json.quote d.label ++
    ",\"class_id\":" ++ (match d.classId with
      | none => "null"
      | some n => toString n) ++
    ",\"score\":" ++ Layout.jsonSingle.writeSingle d.score ++ "\x7d"

/-- Equality as of numbers: both zeros are equal, and what is no number equals nothing. -/
def same (a b : Detection) : Bool :=
  (a.bbox.zip b.bbox).all (fun (x, y) => x == y) && a.label == b.label &&
    a.classId == b.classId && a.score == b.score

end Detection

/-- What an algorithm found on a frame. -/
inductive Payload where
  /-- one text for the whole frame -/
  | classification (text : String)
  | detections (boxes : List Detection)

namespace Payload

/-- Reads a payload: an object with one member, named for the kind of payload. -/
def ofTree (tree : Json.Tree) : Except Json.Fault Payload := do
  match ← tree.variant ["Classification", "Detection"] with
  | (_, none) => Json.mismatch (.type .unitVariant "newtype variant")
  | (name, some (content, rest)) =>
    let payload ←
      if name = "Classification" then content.text.map .classification
      else (Detection.listOfTree .text (Json.maxDepth - 3) content).map .detections
    if rest.isEmpty then .ok payload else .error .malformed

/-- Reads the text of a payload. -/
def ofText (text : String) : Except Json.Fault Payload := Json.decodeText ofTree text

/-- The text of a payload. -/
def print : Payload → String
  | .classification text => "\x7b\"Classification\":" ++ Json.quote text ++ "\x7d"
  | .detections boxes =>
    "\x7b\"Detection\":[" ++ Json.commas (boxes.map Detection.print) ++ "]\x7d"

end Payload

end Lookout
