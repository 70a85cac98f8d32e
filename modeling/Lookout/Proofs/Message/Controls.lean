import Lookout.Message.Control
import Lookout.Proofs.Json.Printing

/-!
# Control messages that are read again

The text of a message is that of an object with the code and, if there is one, the parameter
(`text_eq_print`).  So it is read as the message again, as long as the parameter is not too deep
(`Stable.ofText_text`); the one thing that gets lost is a parameter that is `null`, which is read
as none.  The text itself still tells the two apart, and with them any two messages
(`round_trip_law`).

## Main definitions

* `ControlMessage.body` — the object that a message is written as.
* `ControlMessage.Stable` — a message whose numbers come back.
* `ControlMessage.heard` — what is read of a parameter.
-/

namespace Lookout

open Json (Tree Written)

namespace ControlMessage

/-- The object that a message is written as. -/
def body (m : ControlMessage) : Json :=
  .object (("kind", .number (.whole m.kind)) :: m.param.toList.map fun param => ("param", param))

/-- A message whose code is a signed word, and whose parameter comes back. -/
structure Stable (m : ControlMessage) : Prop where
  least : Int64.minValue.toInt ≤ m.kind
  most : m.kind ≤ Int64.maxValue.toInt
  param : ∀ param ∈ m.param, param.Stable

/-- What is read of a parameter: `null` is none. -/
def heard : Json → Option Json
  | .null => none
  | param => some param

theorem heard_eq_self_iff {param : Json} : heard param = some param ↔ param ≠ .null := by
  cases param <;> simp [heard]

/-- The text of a message is that of its object. -/
theorem text_eq_print (m : ControlMessage) : m.text = m.body.print := by
  obtain ⟨kind, param⟩ := m
  have first : "\x7b\"kind\":" = "\x7b" ++ (Json.quote "kind" ++ ":") := by decide +kernel
  have second : ",\"param\":" = "," ++ (Json.quote "param" ++ ":") := by decide +kernel
  rw [body, Json.print_object, Json.objectText]
  delta text
  rw [first, second]
  cases param with
  | none =>
    simp only [Option.toList_none, List.map_cons, List.map_nil, Json.commas_singleton,
      Json.memberText, String.append_assoc, String.empty_append]
    rfl
  | some param =>
    simp only [Option.toList_some, List.map_cons, List.map_nil, Json.commas_cons,
      Json.commas_singleton, Json.memberText, String.append_assoc]
    rfl

/-- Different messages are different objects. -/
theorem body_injective {m other : ControlMessage} (same : m.body = other.body) : m = other := by
  obtain ⟨kind, param⟩ := m
  obtain ⟨kind', param'⟩ := other
  simp only [body, Json.object.injEq, List.cons.injEq, Prod.mk.injEq, true_and,
    Json.number.injEq, Json.Number.whole.injEq] at same
  obtain ⟨rfl, params⟩ := same
  cases param <;> cases param' <;> simp_all

section
variable {m : ControlMessage} (stable : m.Stable)
include stable

theorem Stable.body : m.body.Stable := by
  refine .object ?_ ?_
  · cases m.param with
    | none => exact List.pairwise_singleton _ _
    | some param =>
      have ordered : ["kind", "param"].Pairwise (· < ·) := by decide
      exact ordered
  · refine List.forall_mem_cons.2 ⟨.number ⟨stable.least, ?_⟩, ?_⟩
    · exact Int.lt_of_le_of_lt stable.most (by decide)
    · intro member among
      obtain ⟨param, own, rfl⟩ := List.mem_map.1 among
      exact stable.param param (Option.mem_toList.1 own)

theorem Stable.kindOf_eq : kindOf (.number (some (.whole m.kind))) = .ok m.kind :=
  if_pos ⟨stable.least, stable.most⟩

/-- A parameter is read unless it is too deep. -/
theorem Stable.paramOf_toTree {param : Json} (own : param ∈ m.param) :
    paramOf param.toTree =
      if param.depth ≤ 126 then .ok (heard param) else .error .malformed := by
  have room : Json.maxDepth - 1 = 126 := rfl
  rw [paramOf, room, (stable.param param own).comesBack 126]
  by_cases fits : param.depth ≤ 126
  · rw [if_pos fits, if_pos fits]
    cases param <;> rfl
  · rw [if_neg fits, if_neg fits]

/-- The object of a message is read member by member. -/
theorem Stable.ofTree_body :
    ofTree m.body.toTree =
      match m.param with
      | none => .ok ⟨m.kind, none⟩
      | some param => (paramOf param.toTree).map fun read => ⟨m.kind, read⟩ := by
  have kind := stable.kindOf_eq
  obtain ⟨code, param⟩ := m
  cases param with
  | none =>
    simp only [ControlMessage.body, Option.toList_none, List.map_nil, Json.toTree, Json.memberTrees,
      ofTree, Json.foldMembers, member, if_true, kind]
    rfl
  | some param =>
    simp only [ControlMessage.body, Option.toList_some, List.map_cons, List.map_nil, Json.toTree,
      Json.memberTrees, ofTree, Json.foldMembers, member, if_true, kind]
    cases paramOf param.toTree <;> rfl

/-- The text of a message is that of its object as a tree. -/
theorem Stable.written : Written m.text m.body.toTree := by
  rw [text_eq_print]
  exact stable.body.written

/-- **A message is read again**, unless its parameter is too deep. -/
theorem Stable.ofText_text (fits : ∀ param ∈ m.param, param.depth ≤ 126) :
    ofText m.text = .ok ⟨m.kind, m.param.bind heard⟩ := by
  rw [ofText, Json.decodeText, stable.written.read_eq, stable.ofTree_body]
  cases param_eq : m.param with
  | none => rfl
  | some param =>
    have own : param ∈ m.param := param_eq
    simp only [stable.paramOf_toTree own, if_pos (fits param own)]
    rfl

theorem Stable.ofText_text_of_deep {param : Json} (own : param ∈ m.param)
    (deep : 126 < param.depth) : ofText m.text = .error .malformed := by
  have param_eq : m.param = some param := own
  rw [ofText, Json.decodeText, stable.written.read_eq, stable.ofTree_body, param_eq]
  simp only [stable.paramOf_toTree own, if_neg (Nat.not_le.2 deep)]
  rfl

/-- The text names a code, and a parameter exactly if the message has one. -/
theorem Stable.exists_members :
    ∃ members, Tree.read m.text = ⟨.object (Tree.keyed members), false⟩ ∧
      members.map (·.1) = "kind" :: m.param.toList.map fun _ => "param" := by
  have read := stable.written.read_eq
  rw [ControlMessage.body, Json.toTree, Json.memberTrees_eq_keyed] at read
  exact ⟨_, read, by simp [Function.comp_def]⟩

/-- Different messages have different texts. -/
theorem Stable.eq_of_text_eq {other : ControlMessage} (stable' : other.Stable)
    (same : other.text = m.text) : other = m := by
  have read := stable'.written.read_eq
  rw [same, stable.written.read_eq] at read
  have trees : m.body.toTree = other.body.toTree := congrArg Json.Document.tree read
  exact (body_injective (stable.body.eq_of_toTree_eq stable'.body trees)).symm

end

/-- **A message and its text.**  The text of a message whose parameter is at most 126 deep is read
as a message with the same code and the same parameter, unless the parameter is `null`, which is
read as none; a parameter that is deeper is no JSON.  The text names a parameter exactly if there is
one, be it `null`, and no other message has the same text. -/
theorem round_trip_law (m : ControlMessage) (stable : m.Stable) :
    ((∀ param ∈ m.param, param.depth ≤ 126) →
      ∃ read, ofText m.text = .ok read ∧ read.kind = m.kind ∧
        (read.param = m.param ↔ m.param ≠ some .null) ∧
        (m.param = some .null → read.param = none)) ∧
    (∀ param ∈ m.param, 126 < param.depth → ofText m.text = .error .malformed) ∧
    (∃ members, Tree.read m.text = ⟨.object (Tree.keyed members), false⟩ ∧
      "kind" ∈ members.map (·.1) ∧ ("param" ∈ members.map (·.1) ↔ m.param ≠ none)) ∧
    ∀ other : ControlMessage, other.Stable → other.text = m.text → other = m := by
  refine ⟨?_, ?_, ?_, fun other stable' same => stable.eq_of_text_eq stable' same⟩
  · intro fits
    refine ⟨_, stable.ofText_text fits, rfl, ?_, ?_⟩
    · cases m.param with
      | none => simp
      | some param => simp [heard_eq_self_iff]
    · intro null
      rw [null]
      rfl
  · exact fun param own deep => stable.ofText_text_of_deep own deep
  · obtain ⟨members, read, names⟩ := stable.exists_members
    refine ⟨members, read, ?_, ?_⟩
    · rw [names]
      exact .head _
    · rw [names]
      cases m.param <;> simp

/-- The console asks for another picture: the gain is a float, a limit is as large as a number can
be, another is negative, and the note has to be escaped. -/
def adjustment : ControlMessage :=
  ⟨Int64.minValue.toInt, some (.object [("gain", .number (.float 0.25)),
    ("limits", .array [.number (.whole (-5)), .number (.whole 18446744073709551615), .null]),
    ("note", .string "\"\\\n")])⟩

theorem stable_quarter : (Json.Number.float 0.25).Stable := by
  have quarter : Decimal.scaled 25 (-2) = some 0.25 := by rw [Decimal.scaled, Decimal.scale]; rfl
  have written : (Layout.json.write 0.25).toList = '0' :: ".25".toList := by decide +kernel
  have scanned : Json.Token.scanOne ('0' :: ".25".toList) =
      some (.number ((Decimal.scaled 25 (-2)).map .float), []) := rfl
  rw [quarter] at scanned
  have read : Tree.read (Layout.json.write 0.25) = ⟨.number (some (.float 0.25)), false⟩ := by
    rw [Tree.read_eq_iff rfl, written, Json.Token.scan_of_scanOne rfl scanned, Json.Token.scan_nil]
    rfl
  rw [Json.Number.Stable, Json.parse?, read]
  rfl

theorem stable_adjustment : adjustment.Stable := by
  have ordered : ["gain", "limits", "note"].Pairwise (· < ·) := by decide
  refine ⟨by decide, by decide, ?_⟩
  intro param own
  cases own
  refine .object ordered ?_
  simp only [List.forall_mem_cons]
  refine ⟨.number stable_quarter, .array ?_, .string _, List.forall_mem_nil _⟩
  simp only [List.forall_mem_cons]
  exact ⟨.number ⟨by decide, by decide⟩, .number ⟨by decide, by decide⟩, .null,
    List.forall_mem_nil _⟩

theorem round_trip_law_adjustment :
    ∃ read, ofText ("\x7b\"kind\":-9223372036854775808,\"param\":\x7b\"gain\":0.25," ++
        "\"limits\":[-5,18446744073709551615,null],\"note\":\"\\\"\\\\\\n\"\x7d\x7d") = .ok read ∧
      read.kind = adjustment.kind ∧ read.param = adjustment.param := by
  have written : adjustment.text =
      "\x7b\"kind\":-9223372036854775808,\"param\":\x7b\"gain\":0.25," ++
        "\"limits\":[-5,18446744073709551615,null],\"note\":\"\\\"\\\\\\n\"\x7d\x7d" := by
    decide +kernel
  obtain ⟨reading, -⟩ := round_trip_law adjustment stable_adjustment
  obtain ⟨read, read_eq, kind, param, -⟩ := reading (by decide)
  rw [← written]
  exact ⟨read, read_eq, kind, param.2 (by rintro ⟨⟩)⟩

end ControlMessage
end Lookout
