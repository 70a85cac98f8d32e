import Lookout.Detection
import Lookout.Message.Inbound

/-!
# Algorithm results

What an algorithm of the device found on the frame that was captured at a given time on a given
channel.  A message carries exactly one payload: a text or a list of detected objects.

## Main definitions

* `Result` — an algorithm result.
* `Result.ofMessage` — reads one from an inbound message.
-/

namespace Lookout

/-- An algorithm result. -/
structure Result where
  channel : ChannelId
  /-- capture time of the frame -/
  timestamp : Timestamp
  payload : Payload

namespace Result

/-- The fields read so far. -/
structure Draft where
  pipeline : Option Nat
  timestamp : Option Nat
  classification : Option (Option String)
  detections : Option (Option (List Detection))

/-- Reads one member. -/
def member (draft : Draft) (name : String) (value : Json.Tree) : Except Json.Fault Draft := do
  if name = "pipeline" then
    .ok { draft with pipeline := ← Json.once name draft.pipeline (value.word 32 "u32") }
  else if name = "timestamp" then
    .ok { draft with timestamp := ← Json.once name draft.timestamp (value.word 64 "u64") }
  else if name = "classification_result" then
    let text ← Json.once name draft.classification (value.optional Json.Tree.text)
    .ok { draft with classification := text }
  else if name = "detection_result" then
    let boxes ← Json.once name draft.detections
      (value.optional (Detection.listOfTree .value (Json.maxDepth - 3)))
    .ok { draft with detections := boxes }
  else
    value.skip
    .ok draft

/-- Reads the members of a message body. -/
def draftOf (members : List (String × Json)) : Except Json.Fault Draft :=
  Json.foldMembers member ⟨none, none, none, none⟩ (Json.memberTrees members)

/-- The payload of a result: exactly one of the two must be there. -/
def payloadOf : Option String → Option (List Detection) → Except Error Payload
  | some text, none => .ok (.classification text)
  | none, some boxes => .ok (.detections boxes)
  | some _, some _ => .error (.parse .bothPayloads)
  | none, none => .error (.parse .noPayload)

/-- Reads the result in a message. -/
def ofMessage (message : Inbound) : Except Error Result := do
  let members := match message.body with
    | .object members => members
    | _ => []
  let draft ← (draftOf members).mapError Error.ofFault
  let pipeline ← (Json.required "pipeline" draft.pipeline).mapError Error.ofFault
  let timestamp ← (Json.required "timestamp" draft.timestamp).mapError Error.ofFault
  let payload ← payloadOf draft.classification.join draft.detections.join
  .ok ⟨UInt32.ofNat pipeline, UInt64.ofNat timestamp, payload⟩

end Result

end Lookout
