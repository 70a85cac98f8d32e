import Lookout.Proofs.Json.Values
import Lookout.Result

/-!
# Which messages carry a result

A message carries a result if and only if four of its members say so: the channel and the time are
whole numbers of thirty-two and sixty-four bits, and exactly one of the two payloads is there, a
text or an array of objects each of which can be read (`Result.IsTold`).  The result then is what
these members say (`Result.Told`), and the other members do not matter (`reading_law`).

## Main definitions

* `Payload.Told`, `Result.Told` — what a message says.
* `Result.IsTold` — the message says it in a form that can be read.
-/

namespace Lookout

open Json (Fills Offers)

/-- The payload is the only one in a message, and the message says it so. -/
@[mk_iff]
inductive Payload.Told (body : Json) : Payload → Prop where
  | classification {text : String}
      (told : body.present? "classification_result" = some (.string text))
      (alone : body.present? "detection_result" = none) : Told body (.classification text)
  /-- the boxes of all items, in their order -/
  | detections {items : List Json} {boxes : List Detection}
      (told : body.present? "detection_result" = some (.array items))
      (read : List.Forall₂ (fun item box =>
        Detection.ofTree .value (Json.maxDepth - 3) item.toTree = .ok box) items boxes)
      (alone : body.present? "classification_result" = none) : Told body (.detections boxes)

namespace Result

/-- The result that a message tells. -/
@[mk_iff]
structure Told (body : Json) (result : Result) : Prop where
  channel : body.get? "pipeline" = some (.nat result.channel.toNat)
  timestamp : body.get? "timestamp" = some (.nat result.timestamp.toNat)
  payload : result.payload.Told body

/-- A message tells a result. -/
structure IsTold (body : Json) : Prop where
  pipeline : ∃ n : Int, body.get? "pipeline" = some (.number (.whole n)) ∧
    0 ≤ n ∧ n < UInt32.size
  timestamp : ∃ n : Int, body.get? "timestamp" = some (.number (.whole n)) ∧
    0 ≤ n ∧ n < UInt64.size
  classification : body.present? "classification_result" = none ∨
    ∃ text, body.present? "classification_result" = some (.string text)
  detections : body.present? "detection_result" = none ∨
    ∃ items, body.present? "detection_result" = some (.array items) ∧
      ∀ item ∈ items, ∃ box,
        Detection.ofTree .value (Json.maxDepth - 3) item.toTree = .ok box
  one : (body.present? "classification_result").isSome ≠
    (body.present? "detection_result").isSome

/-! ## The walk over the members -/

/-- What a walk over members makes of the fields read so far. -/
@[mk_iff]
structure Filled (old : Draft) (members : List (String × Json)) (new : Draft) : Prop where
  pipeline : Fills (·.word 32 "u32") (members.lookup "pipeline") old.pipeline new.pipeline
  timestamp : Fills (·.word 64 "u64") (members.lookup "timestamp") old.timestamp new.timestamp
  classification : Fills (Json.Tree.optional Json.Tree.text)
    (members.lookup "classification_result") old.classification new.classification
  detections : Fills (Json.Tree.optional (Detection.listOfTree .value (Json.maxDepth - 3)))
    (members.lookup "detection_result") old.detections new.detections

theorem filled_nil_iff {old new : Draft} : Filled old [] new ↔ new = old := by
  constructor
  · rintro ⟨pipeline, timestamp, classification, detections⟩
    cases new
    cases old
    simp_all [Fills]
  · rintro rfl
    exact ⟨rfl, rfl, rfl, rfl⟩

theorem filled_cons_iff {old new : Draft} {member : String × Json} {rest : List (String × Json)}
    (apart : member.1 ∉ rest.map Prod.fst) :
    Filled old (member :: rest) new ↔ ∃ mid, Filled old [member] mid ∧ Filled mid rest new := by
  constructor
  · rintro ⟨pipeline, timestamp, classification, detections⟩
    obtain ⟨_, pipeline, pipeline'⟩ := (Json.fills_cons_iff apart _).1 pipeline
    obtain ⟨_, timestamp, timestamp'⟩ := (Json.fills_cons_iff apart _).1 timestamp
    obtain ⟨_, classification, classification'⟩ := (Json.fills_cons_iff apart _).1 classification
    obtain ⟨_, detections, detections'⟩ := (Json.fills_cons_iff apart _).1 detections
    exact ⟨⟨_, _, _, _⟩, ⟨pipeline, timestamp, classification, detections⟩,
      ⟨pipeline', timestamp', classification', detections'⟩⟩
  · rintro ⟨mid, first, later⟩
    exact ⟨(Json.fills_cons_iff apart _).2 ⟨_, first.pipeline, later.pipeline⟩,
      (Json.fills_cons_iff apart _).2 ⟨_, first.timestamp, later.timestamp⟩,
      (Json.fills_cons_iff apart _).2 ⟨_, first.classification, later.classification⟩,
      (Json.fills_cons_iff apart _).2 ⟨_, first.detections, later.detections⟩⟩

theorem member_eq_ok_iff {old new : Draft} {name : String} {value : Json} :
    member old name value.toTree = .ok new ↔ Filled old [(name, value)] new := by
  rw [member, filled_iff]
  by_cases pipeline : name = "pipeline"
  · subst pipeline
    rw [if_pos rfl, bind_eq_ok_iff, Json.fills_singleton_self_iff]
    simp (disch := decide) only [Json.fills_singleton_of_ne]
    constructor
    · rintro ⟨slot, read, done⟩
      cases done
      exact ⟨read, rfl, rfl, rfl⟩
    · rintro ⟨read, timestamp, classification, detections⟩
      exact ⟨_, read, by rw [← timestamp, ← classification, ← detections]⟩
  rw [if_neg pipeline]
  by_cases timestamp : name = "timestamp"
  · subst timestamp
    rw [if_pos rfl, bind_eq_ok_iff, Json.fills_singleton_self_iff]
    simp (disch := decide) only [Json.fills_singleton_of_ne]
    constructor
    · rintro ⟨slot, read, done⟩
      cases done
      exact ⟨rfl, read, rfl, rfl⟩
    · rintro ⟨pipeline, read, classification, detections⟩
      exact ⟨_, read, by rw [← pipeline, ← classification, ← detections]⟩
  rw [if_neg timestamp]
  by_cases classification : name = "classification_result"
  · subst classification
    rw [if_pos rfl, bind_eq_ok_iff, Json.fills_singleton_self_iff]
    simp (disch := decide) only [Json.fills_singleton_of_ne]
    constructor
    · rintro ⟨slot, read, done⟩
      cases done
      exact ⟨rfl, rfl, read, rfl⟩
    · rintro ⟨pipeline, timestamp, read, detections⟩
      exact ⟨_, read, by rw [← pipeline, ← timestamp, ← detections]⟩
  rw [if_neg classification]
  by_cases detections : name = "detection_result"
  · subst detections
    rw [if_pos rfl, bind_eq_ok_iff, Json.fills_singleton_self_iff]
    simp (disch := decide) only [Json.fills_singleton_of_ne]
    constructor
    · rintro ⟨slot, read, done⟩
      cases done
      exact ⟨rfl, rfl, rfl, read⟩
    · rintro ⟨pipeline, timestamp, classification, read⟩
      exact ⟨_, read, by rw [← pipeline, ← timestamp, ← classification]⟩
  -- a member of any other name is passed over
  rw [if_neg detections, Json.skip_toTree, Json.fills_singleton_of_ne pipeline,
    Json.fills_singleton_of_ne timestamp, Json.fills_singleton_of_ne classification,
    Json.fills_singleton_of_ne detections]
  constructor
  · intro done
    cases done
    exact ⟨rfl, rfl, rfl, rfl⟩
  · rintro ⟨pipeline, timestamp, classification, detections⟩
    cases old
    cases new
    cases pipeline
    cases timestamp
    cases classification
    cases detections
    rfl

theorem draftOf_eq_ok_iff {members : List (String × Json)}
    (distinct : (members.map Prod.fst).Nodup) {draft : Draft} :
    draftOf members = .ok draft ↔ Filled ⟨none, none, none, none⟩ members draft := by
  rw [draftOf]
  generalize (⟨none, none, none, none⟩ : Draft) = old
  induction members generalizing old with
  | nil =>
    rw [filled_nil_iff]
    exact ⟨fun done => (Except.ok.inj done).symm, fun same => congrArg Except.ok same.symm⟩
  | cons first rest ih =>
    obtain ⟨name, value⟩ := first
    obtain ⟨apart, distinct⟩ := List.nodup_cons.1 distinct
    rw [filled_cons_iff apart, Json.memberTrees, Json.foldMembers, bind_eq_ok_iff]
    simp only [member_eq_ok_iff, ih distinct]

/-! ## What is read -/

theorem listOfTree_toTree_eq_ok_iff {origin : Json.Origin} {room : Nat} {value : Json}
    {boxes : List Detection} :
    Detection.listOfTree origin room value.toTree = .ok boxes ↔
      ∃ items, value = .array items ∧
        List.Forall₂ (fun item box => Detection.ofTree origin room item.toTree = .ok box)
          items boxes := by
  cases value with
  | array items =>
    rw [Json.toTree, Detection.listOfTree, mapM_eq_ok_iff, Json.itemTrees_eq_map,
      List.forall₂_map_left_iff]
    constructor
    · intro read
      exact ⟨items, rfl, read⟩
    · rintro ⟨_, ⟨⟩, read⟩
      exact read
  | null | bool | number | string | object =>
    constructor
    · intro read
      exact absurd read (Json.refuse_ne_ok _ _ boxes)
    · rintro ⟨items, ⟨⟩, -⟩

theorem payloadOf_eq_ok_iff {text : Option String} {boxes : Option (List Detection)}
    {payload : Payload} :
    payloadOf text boxes = .ok payload ↔
      (∃ s, text = some s ∧ boxes = none ∧ payload = .classification s) ∨
      (∃ bs, boxes = some bs ∧ text = none ∧ payload = .detections bs) := by
  cases text <;> cases boxes <;> simp [payloadOf, eq_comm]

theorem told_payload_iff {body : Json} {payload : Payload} :
    payload.Told body ↔ ∃ text boxes, Offers Json.Tree.text body "classification_result" text ∧
      Offers (Detection.listOfTree .value (Json.maxDepth - 3)) body "detection_result" boxes ∧
      payloadOf text boxes = .ok payload := by
  constructor
  · intro told
    cases told with
    | @classification text told alone => exact ⟨some text, none, ⟨_, told, rfl⟩, alone, rfl⟩
    | @detections items boxes told read alone =>
      exact ⟨none, some boxes, alone,
        ⟨_, told, listOfTree_toTree_eq_ok_iff.2 ⟨items, rfl, read⟩⟩, rfl⟩
  · rintro ⟨text, boxes, told, found, one⟩
    rcases payloadOf_eq_ok_iff.1 one with ⟨s, rfl, rfl, rfl⟩ | ⟨bs, rfl, rfl, rfl⟩
    · obtain ⟨value, there, read⟩ := told
      rw [Json.text_toTree_eq_ok_iff.1 read] at there
      exact .classification there found
    · obtain ⟨value, there, read⟩ := found
      obtain ⟨items, rfl, reads⟩ := listOfTree_toTree_eq_ok_iff.1 read
      exact .detections there reads told

variable {members : List (String × Json)} {result : Result}

/-- Reading an object gives the result that it tells, and nothing else. -/
theorem ofMessage_eq_ok_iff (distinct : (members.map Prod.fst).Nodup) :
    ofMessage ⟨.object members⟩ = .ok result ↔ Told (.object members) result := by
  simp only [ofMessage, bind_eq_ok_iff, mapError_eq_ok_iff, draftOf_eq_ok_iff distinct,
    Json.required_eq_ok_iff]
  constructor
  · rintro ⟨draft, filled, n, pipeline, t, timestamp, payload, one, done⟩
    cases done
    obtain ⟨channel, time, text, boxes⟩ := filled
    rw [pipeline, Json.fills_some_iff] at channel
    rw [timestamp, Json.fills_some_iff] at time
    obtain ⟨value, found, read⟩ := channel
    obtain ⟨rfl, small⟩ := Json.word_toTree_eq_ok_iff.1 read
    obtain ⟨value, found', read'⟩ := time
    obtain ⟨rfl, small'⟩ := Json.word_toTree_eq_ok_iff.1 read'
    refine ⟨?_, ?_, told_payload_iff.2 ⟨_, _, Json.offers_iff.2 ⟨_, text, rfl⟩,
      Json.offers_iff.2 ⟨_, boxes, rfl⟩, one⟩⟩
    · rw [UInt32.toNat_ofNat_of_lt' small]
      exact found
    · rw [UInt64.toNat_ofNat_of_lt' small']
      exact found'
  · rintro ⟨channel, timestamp, payload⟩
    obtain ⟨text, boxes, told, told', one⟩ := told_payload_iff.1 payload
    obtain ⟨slot, text, rfl⟩ := Json.offers_iff.1 told
    obtain ⟨slot', boxes, rfl⟩ := Json.offers_iff.1 told'
    have pipeline : Fills (·.word 32 "u32") (members.lookup "pipeline") none
        (some result.channel.toNat) :=
      Json.fills_some_iff.2
        ⟨_, channel, Json.word_toTree_eq_ok_iff.2 ⟨rfl, result.channel.toNat_lt⟩⟩
    have time : Fills (·.word 64 "u64") (members.lookup "timestamp") none
        (some result.timestamp.toNat) :=
      Json.fills_some_iff.2
        ⟨_, timestamp, Json.word_toTree_eq_ok_iff.2 ⟨rfl, result.timestamp.toNat_lt⟩⟩
    refine ⟨⟨_, _, _, _⟩, ⟨pipeline, time, text, boxes⟩, _, rfl, _, rfl, _, one, ?_⟩
    rw [UInt32.ofNat_toNat, UInt64.ofNat_toNat]

theorem isTold_iff {body : Json} : IsTold body ↔ ∃ result, Told body result := by
  constructor
  · rintro ⟨⟨n, pipeline, least, small⟩, ⟨t, timestamp, least', small'⟩, classification,
      detections, one⟩
    lift n to Nat using least
    lift t to Nat using least'
    have channel : (UInt32.ofNat n).toNat = n := UInt32.toNat_ofNat_of_lt' (Int.ofNat_lt.1 small)
    have time : (UInt64.ofNat t).toNat = t := UInt64.toNat_ofNat_of_lt' (Int.ofNat_lt.1 small')
    suffices payload : ∃ payload : Payload, payload.Told body by
      obtain ⟨payload, told⟩ := payload
      refine ⟨⟨UInt32.ofNat n, UInt64.ofNat t, payload⟩, ?_, ?_, told⟩
      · rw [channel]
        exact pipeline
      · rw [time]
        exact timestamp
    rcases classification with absent | ⟨text, there⟩
    · rcases detections with absent' | ⟨items, there, reads⟩
      · exact absurd (by rw [absent, absent']) one
      · obtain ⟨boxes, read⟩ := exists_forall₂_iff.2 reads
        exact ⟨.detections boxes, .detections there read absent⟩
    · rcases detections with absent | ⟨items, there', reads⟩
      · exact ⟨.classification text, .classification there absent⟩
      · exact absurd (by rw [there, there']; rfl) one
  · rintro ⟨⟨channel, time, payload⟩, pipeline, timestamp, told⟩
    have channel : ∃ n : Int, body.get? "pipeline" = some (.number (.whole n)) ∧
        0 ≤ n ∧ n < UInt32.size :=
      ⟨_, pipeline, Int.natCast_nonneg _, Int.ofNat_lt.2 channel.toNat_lt⟩
    have time : ∃ n : Int, body.get? "timestamp" = some (.number (.whole n)) ∧
        0 ≤ n ∧ n < UInt64.size :=
      ⟨_, timestamp, Int.natCast_nonneg _, Int.ofNat_lt.2 time.toNat_lt⟩
    cases told with
    | classification told alone =>
      refine ⟨channel, time, .inr ⟨_, told⟩, .inl alone, ?_⟩
      simp [told, alone]
    | detections told read alone =>
      refine ⟨channel, time, .inl alone, .inr ⟨_, told, exists_forall₂_iff.1 ⟨_, read⟩⟩, ?_⟩
      simp [told, alone]

theorem told_congr {body other : Json}
    (same : ∀ name ∈ ["pipeline", "timestamp", "classification_result", "detection_result"],
      other.get? name = body.get? name) : Told other result ↔ Told body result := by
  simp only [List.forall_mem_cons] at same
  obtain ⟨pipeline, timestamp, classification, detections, -⟩ := same
  rw [told_iff, told_iff, pipeline, timestamp, Payload.told_iff, Payload.told_iff,
    Json.present?_congr classification, Json.present?_congr detections]

/-- **Which messages carry a result.**  An object is read as a result if and only if it tells one:
channel and time are whole numbers in their bounds, each payload is missing, `null` or of its type,
and exactly one is there.  The result is then the one told, with all boxes in their order, and two
objects with the same four members are read alike, whatever else they hold. -/
theorem reading_law (members : List (String × Json)) :
    ((∃ result, ofMessage ⟨.ofMembers members⟩ = .ok result) ↔ IsTold (.ofMembers members)) ∧
    (∀ result, ofMessage ⟨.ofMembers members⟩ = .ok result ↔ Told (.ofMembers members) result) ∧
    ∀ others : List (String × Json),
      (∀ name ∈ ["pipeline", "timestamp", "classification_result", "detection_result"],
        (Json.ofMembers others).get? name = (Json.ofMembers members).get? name) →
      (ofMessage ⟨.ofMembers others⟩).toOption = (ofMessage ⟨.ofMembers members⟩).toOption := by
  have reads (members : List (String × Json)) (result : Result) :
      ofMessage ⟨.ofMembers members⟩ = .ok result ↔ Told (.ofMembers members) result :=
    ofMessage_eq_ok_iff (Json.nodup_sortMembers members)
  refine ⟨?_, reads members, ?_⟩
  · rw [isTold_iff]
    exact exists_congr (reads members)
  · intro others same
    ext result
    rw [toOption_eq_some_iff, toOption_eq_some_iff, reads, reads, told_congr same]

end Result
end Lookout
