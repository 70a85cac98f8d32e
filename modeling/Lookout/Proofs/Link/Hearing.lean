import Lookout.Proofs.Link.History

/-!
# What a link hears

A message that arrives on the live socket is a text, a binary message or the end of the socket.
What a text says is read off its JSON value alone: it is for the application if it is an object,
unless its code is one of the two that are for the link, and it lets a result wait if its code is
that of a result and the result can be read (`WireMessage.application?`, `WireMessage.result?`).
A link passes on exactly this, in order and each once, and nothing else that it does passes
anything on (`passed_step`, `passed_after`).

A message at fault is one that cannot be read, at whatever depth this is noticed
(`WireMessage.IsFaulty`).  It leaves the link as it is, but for the time at which something last
arrived (`Hearing.of_faulty`).

## Main definitions

* `WireMessage.application?`, `WireMessage.result?`, `WireMessage.IsFaulty`.
* `Link.heard` — the messages that a link has heard.
* `Link.Hearing` — what it makes of one.
-/

namespace Lookout

/-! ## What a message says -/

/-- The whole number that a value is, of whatever size. -/
def Json.whole? : Json → Option Int
  | .number (.whole n) => some n
  | _ => none

/-- The code in the members of a message. -/
def Json.code? (members : List (String × Json)) : Option Int :=
  (members.lookup "kind").bind Json.whole?

namespace WireMessage

/-- The members of the object that a text is. -/
def members? : WireMessage → Option (List (String × Json))
  | .text s =>
    match Json.parse? s with
    | some (.object members) => some members
    | _ => none
  | .binary _ | .close => none

/-- What a message says to the application: the whole object, unless its code announces the end of
the link or a takeover. -/
def application? (message : WireMessage) : Option Inbound :=
  message.members?.bind fun members =>
    if Json.code? members = some 110 ∨ Json.code? members = some 99 then none
    else some ⟨.object members⟩

/-- The result that a message carries: its code is that of a result, and it can be read as one. -/
def result? (message : WireMessage) : Option Result :=
  message.members?.bind fun members =>
    if Json.code? members = some 10 then (Result.ofMessage ⟨.object members⟩).toOption else none

/-- A message that cannot be read: a text that is not JSON or no object, a result that cannot be
decoded, and a binary message that is too short for its header. -/
inductive IsFaulty : WireMessage → Prop where
  | malformed {text : String} (unread : Json.parse? text = none) : IsFaulty (.text text)
  | notObject {text : String} {body : Json} (read : Json.parse? text = some body)
      (other : ∀ members, body ≠ .object members) : IsFaulty (.text text)
  | undecodable {text : String} {members : List (String × Json)} {error : Error}
      (read : Json.parse? text = some (.object members)) (code : Json.code? members = some 10)
      (fault : Result.ofMessage ⟨.object members⟩ = .error error) : IsFaulty (.text text)
  | short {raw : Bytes} (short : raw.length < 12) : IsFaulty (.binary raw)

end WireMessage

/-- A small number is read in the same way whatever its size may be. -/
theorem Json.asInt64?_eq_some_iff {value : Json} {n : Int} (small : n ≤ Int64.maxValue.toInt) :
    value.asInt64? = some n ↔ value.whole? = some n := by
  cases value with
  | number number =>
    cases number with
    | whole m =>
      simp only [asInt64?, whole?]
      constructor
      · intro read
        split at read
        · exact read
        · cases read
      · intro read
        cases read
        exact if_pos small
    | float x => simp [asInt64?, whole?]
  | null | bool | string | array | object => simp [asInt64?, whole?]

theorem RequestKind.ofCode?_eq_some_iff {code : Int} {kind : RequestKind} :
    ofCode? code = some kind ↔ code = kind.code := by
  constructor
  · intro found
    have own := List.find?_some (p := fun other : RequestKind => other.code == code) found
    exact (beq_iff_eq.1 own).symm
  · rintro rfl
    exact ofCode?_code kind

namespace Inbound

variable {members : List (String × Json)}

theorem kind_eq_some_iff {n : Int} (small : n ≤ Int64.maxValue.toInt) :
    (⟨.object members⟩ : Inbound).kind = some n ↔ Json.code? members = some n := by
  simp [kind, Json.get?, Json.code?, Option.bind_eq_some_iff, Json.asInt64?_eq_some_iff small]

theorem requestKind_eq_iff :
    (⟨.object members⟩ : Inbound).requestKind = some .algorithmResult ↔
      Json.code? members = some 10 := by
  rw [← kind_eq_some_iff (by decide)]
  simp [requestKind, Option.bind_eq_some_iff, RequestKind.ofCode?_eq_some_iff, RequestKind.code]

/-- A text is a message if and only if it is an object. -/
theorem ofText_eq (text : String) :
    (∃ error, WireMessage.members? (.text text) = none ∧ ofText text = .error error) ∨
      ∃ members, WireMessage.members? (.text text) = some members ∧
        ofText text = .ok ⟨.object members⟩ := by
  simp only [WireMessage.members?, ofText]
  cases read : Json.parse? text with
  | none => exact .inl ⟨_, rfl, rfl⟩
  | some body =>
    cases body with
    | object members => exact .inr ⟨members, rfl, rfl⟩
    | null | bool | number | string | array => exact .inl ⟨_, rfl, rfl⟩

end Inbound

/-! ## What is passed on -/

/-- The message that a notice tells. -/
def Notice.message? : Notice → Option Inbound
  | .message m => some m
  | _ => none

namespace Effect

/-- The message that an effect passes on to the application. -/
def message? : Effect → Option Inbound
  | .notify notice => notice.message?
  | _ => none

/-- The result that an effect lets wait. -/
def result? : Effect → Option Result
  | .queueResult result => some result
  | _ => none

end Effect

namespace Link

/-- What a link hears in an input: a message of the live socket. -/
def heard? (l : Link) : Input → Option WireMessage
  | .transport (.message generation message) =>
    if l.lifecycle.isCurrent generation then some message else none
  | _ => none

/-- What a link has heard in a history, latest first. -/
def heard (config : Config) : History → List WireMessage
  | [] => []
  | (_, input) :: past => ((after config past).heard? input).toList ++ heard config past

/-- What a link makes of a message that it hears. -/
inductive Hearing (config : Config) (now : Millis) (l : Link) : WireMessage → Turn → Prop where
  | faulty {text : String} (silent : WireMessage.members? (.text text) = none) :
      Hearing config now l (.text text) ⟨{ l with lastInbound := now }, []⟩
  | announced {text : String} {members : List (String × Json)}
      (read : WireMessage.members? (.text text) = some members)
      (code : Json.code? members = some 110) :
      Hearing config now l (.text text) ({ l with lastInbound := now }.announced config now)
  | superseded {text : String} {members : List (String × Json)}
      (read : WireMessage.members? (.text text) = some members)
      (code : Json.code? members = some 99) :
      Hearing config now l (.text text)
        ⟨{ l with lastInbound := now, lifecycle := l.lifecycle.superseded },
          [.notify .superseded]⟩
  | passed {text : String} {message : Inbound}
      (spoken : WireMessage.application? (.text text) = some message) :
      Hearing config now l (.text text)
        ⟨{ l with lastInbound := now },
          (WireMessage.result? (.text text)).toList.map .queueResult ++
            [.notify (.message message)]⟩
  | binary {raw : Bytes} :
      Hearing config now l (.binary raw) ⟨{ l with lastInbound := now }, [.deliver raw]⟩
  | close : Hearing config now l .close ⟨{ l with lastInbound := now }, []⟩

variable {config : Config} {now : Millis} {l : Link} {generation : Nat} {message : WireMessage}
  {turn : Turn}

theorem resultEffects_eq {text : String} {members : List (String × Json)}
    (read : WireMessage.members? (.text text) = some members) :
    resultEffects ⟨.object members⟩ =
      (WireMessage.result? (.text text)).toList.map .queueResult := by
  simp only [resultEffects, Inbound.requestKind_eq_iff, WireMessage.result?, read,
    Option.bind_some]
  split
  · cases Result.ofMessage ⟨.object members⟩ <;> rfl
  · rfl

theorem hearing_receive (current : l.lifecycle.isCurrent generation = true)
    (message : WireMessage) :
    Hearing config now l message (l.receive config now generation message) := by
  simp only [receive, current, if_true]
  cases message with
  | binary raw => exact .binary
  | close => exact .close
  | text text =>
    rcases Inbound.ofText_eq text with ⟨error, silent, fault⟩ | ⟨members, read, ok⟩
    · simp only [receiveText, fault]
      exact .faulty silent
    · simp only [receiveText, ok, Inbound.route, LinkCode.serverClosing, LinkCode.superseded,
        Inbound.kind_eq_some_iff (show (110 : Int) ≤ Int64.maxValue.toInt by decide),
        Inbound.kind_eq_some_iff (show (99 : Int) ≤ Int64.maxValue.toInt by decide)]
      by_cases closing : Json.code? members = some 110
      · rw [if_pos closing]
        exact .announced read closing
      · rw [if_neg closing]
        by_cases taken : Json.code? members = some 99
        · rw [if_pos taken]
          exact .superseded read taken
        · rw [if_neg taken]
          simp only [resultEffects_eq read]
          exact .passed (by simp [WireMessage.application?, read, closing, taken])

/-- An announcement has no effects. -/
theorem effects_announced (l : Link) : (l.announced config now).effects = [] := by
  by_cases up : l.state = .opened <;> simp [announced, Lifecycle.serverClosing, up, Link.idle]

/-- A socket that is announced to end is live until it does. -/
theorem isCurrent_announced (current : l.lifecycle.isCurrent generation = true) :
    (l.announced config now).link.lifecycle.isCurrent generation = true := by
  by_cases up : l.state = .opened
  · obtain ⟨rfl, -⟩ := isCurrent_iff.1 current
    simp [announced, Lifecycle.serverClosing, up, Link.idle, publish, Lifecycle.isCurrent]
  · simpa [announced, Lifecycle.serverClosing, up, Link.idle] using current

/-- The live socket stays so, whatever is heard on it. -/
theorem Hearing.isCurrent (hearing : Hearing config now l message turn)
    (current : l.lifecycle.isCurrent generation = true) :
    turn.link.lifecycle.isCurrent generation = true := by
  cases hearing with
  | announced => exact isCurrent_announced current
  | faulty | superseded | passed | binary | close => exact current

theorem filterMap_queued (results : List Result) :
    (results.map Effect.queueResult).filterMap Effect.message? = [] ∧
      (results.map Effect.queueResult).filterMap Effect.result? = results := by
  simp [List.filterMap_map, Function.comp_def, Effect.message?, Effect.result?]

/-- A link passes on what a message says, and nothing else. -/
theorem Hearing.passed_eq (hearing : Hearing config now l message turn) :
    turn.effects.filterMap Effect.message? = message.application?.toList ∧
      turn.effects.filterMap Effect.result? = message.result?.toList := by
  cases hearing with
  | faulty silent => simp [WireMessage.application?, WireMessage.result?, silent]
  | announced read code =>
    simp [effects_announced, WireMessage.application?, WireMessage.result?, read, code]
  | superseded read code =>
    simp [WireMessage.application?, WireMessage.result?, read, code, Effect.message?,
      Notice.message?, Effect.result?]
  | passed spoken =>
    simp only [List.filterMap_append, filterMap_queued, spoken]
    exact ⟨rfl, List.append_nil _⟩
  | binary => exact ⟨rfl, rfl⟩
  | close => exact ⟨rfl, rfl⟩

/-- A text that is no message does nothing. -/
theorem Hearing.of_silent {text : String} (hearing : Hearing config now l (.text text) turn)
    (silent : WireMessage.members? (.text text) = none) :
    turn = ⟨{ l with lastInbound := now }, []⟩ := by
  cases hearing with
  | faulty => rfl
  | announced read => cases silent.symm.trans read
  | superseded read => cases silent.symm.trans read
  | passed spoken => simp [WireMessage.application?, silent] at spoken

/-- A result that cannot be read is told all the same, and does nothing else. -/
theorem Hearing.of_undecodable {text : String} {members : List (String × Json)}
    (hearing : Hearing config now l (.text text) turn)
    (known : WireMessage.members? (.text text) = some members)
    (code : Json.code? members = some 10) (unread : WireMessage.result? (.text text) = none) :
    ∃ message, WireMessage.application? (.text text) = some message ∧
      turn = ⟨{ l with lastInbound := now }, [.notify (.message message)]⟩ := by
  cases hearing with
  | faulty silent => cases silent.symm.trans known
  | announced read closing =>
    cases known.symm.trans read
    cases code.symm.trans closing
  | superseded read taken =>
    cases known.symm.trans read
    cases code.symm.trans taken
  | @passed _ message spoken =>
    rw [unread]
    exact ⟨message, spoken, rfl⟩

/-- **What follows from a message at fault**: nothing, but that it is told if it is an object, and
that its channel is looked for if it is binary. -/
theorem Hearing.of_faulty (hearing : Hearing config now l message turn)
    (faulty : message.IsFaulty) :
    turn.link = { l with lastInbound := now } ∧
      (turn.effects = message.application?.toList.map (.notify <| .message ·) ∨
        ∃ raw, message = .binary raw ∧ raw.length < 12 ∧ turn.effects = [.deliver raw]) := by
  cases faulty with
  | @malformed text unread =>
    have silent : WireMessage.members? (.text text) = none := by
      simp [WireMessage.members?, unread]
    rw [hearing.of_silent silent]
    exact ⟨rfl, .inl (by simp [WireMessage.application?, silent])⟩
  | @notObject text body read other =>
    have silent : WireMessage.members? (.text text) = none := by
      cases body with
      | object members => exact absurd rfl (other members)
      | null | bool | number | string | array => simp [WireMessage.members?, read]
    rw [hearing.of_silent silent]
    exact ⟨rfl, .inl (by simp [WireMessage.application?, silent])⟩
  | @undecodable text members error read code fault =>
    have known : WireMessage.members? (.text text) = some members := by
      simp [WireMessage.members?, read]
    have unread : WireMessage.result? (.text text) = none := by
      simp [WireMessage.result?, known, code, fault, Except.toOption]
    obtain ⟨message, spoken, rfl⟩ := hearing.of_undecodable known code unread
    rw [spoken]
    exact ⟨rfl, .inl rfl⟩
  | short short =>
    cases hearing with
    | binary => exact ⟨rfl, .inr ⟨_, rfl, short, rfl⟩⟩

/-! ## Everything else -/

/-- Effects that pass nothing on. -/
def IsHushed (effects : List Effect) : Prop :=
  ∀ effect ∈ effects, effect.message? = none ∧ effect.result? = none

theorem IsHushed.filterMap {effects : List Effect} (hushed : IsHushed effects) :
    effects.filterMap Effect.message? = [] ∧ effects.filterMap Effect.result? = [] := by
  rw [List.filterMap_eq_nil_iff, List.filterMap_eq_nil_iff]
  exact ⟨fun effect member => (hushed effect member).1, fun effect member =>
    (hushed effect member).2⟩

theorem IsHushed.append {effects later : List Effect} (first : IsHushed effects)
    (second : IsHushed later) : IsHushed (effects ++ later) := by
  intro effect member
  rcases List.mem_append.1 member with early | late
  · exact first effect early
  · exact second effect late

theorem hushed_nil : IsHushed [] := List.forall_mem_nil _

theorem hushed_singleton {effect : Effect}
    (aside : effect.message? = none ∧ effect.result? = none) : IsHushed [effect] := by
  intro other member
  rw [List.mem_singleton.1 member]
  exact aside

theorem hushed_hand (wire : WireMessage) : IsHushed (l.hand wire).effects := by
  simp [IsHushed, hand, Effect.message?, Effect.result?]

theorem hushed_openSocket : IsHushed l.openSocket.effects := by
  simp only [openSocket]
  split
  · exact hushed_singleton ⟨rfl, rfl⟩
  · exact hushed_nil

theorem hushed_parting (error : Option Error) : IsHushed (l.parting error) := by
  refine IsHushed.append (IsHushed.append ?_ (hushed_singleton ⟨rfl, rfl⟩)) ?_
  · simp [IsHushed, Effect.message?, Effect.result?]
  · split
    · exact hushed_singleton ⟨rfl, rfl⟩
    · exact hushed_nil

theorem hushed_afterSocket (generation : Nat) (error : Option Error) :
    IsHushed (l.afterSocket now generation error).effects := by
  cases current : l.lifecycle.isCurrent generation with
  | false =>
    rw [afterSocket_stale current]
    exact hushed_nil
  | true =>
    obtain ⟨rfl, up⟩ := isCurrent_iff.1 current
    have ending := afterSocket_ending up now error
    generalize l.afterSocket now l.lifecycle.generation error = turn at ending
    cases ending with
    | retried | lost => exact (hushed_parting error).append (hushed_singleton ⟨rfl, rfl⟩)
    | stopped | idle => exact hushed_parting error

theorem hushed_command (command : Command) :
    IsHushed (l.step config now (.command command)).effects := by
  cases command with
  | connect url =>
    simp only [step, connect]
    split
    · exact hushed_openSocket
    · exact hushed_nil
  | send message =>
    simp only [step, send]
    split
    · exact hushed_hand _
    · split <;> exact hushed_nil
  | close =>
    simp only [step, close]
    split
    · exact (hushed_hand _).append (hushed_afterSocket _ _)
    · exact hushed_nil

theorem hushed_connected (generation : Nat) :
    IsHushed (l.connected config now generation).effects := by
  simp only [connected]
  split
  · exact hushed_nil
  · exact hushed_singleton ⟨rfl, rfl⟩

theorem hushed_fire (timer : Timer) : IsHushed (l.fire config now timer).effects := by
  cases timer with
  | heartbeat =>
    simp only [fire, onHeartbeat]
    split
    · split
      · exact hushed_afterSocket _ _
      · exact hushed_hand _
    · exact hushed_hand _
  | reconnect => exact hushed_openSocket
  | sendRetry =>
    simp only [fire, onSendRetry]
    split
    · exact hushed_nil
    · split
      · intro effect member
        obtain ⟨message, -, handed⟩ := List.mem_flatMap.1 member
        exact hushed_hand _ effect handed
      · split <;> exact hushed_nil
  | closeGrace =>
    simp only [fire, onCloseGrace]
    split
    · exact hushed_afterSocket _ _
    · exact hushed_nil
  | metrics => exact hushed_singleton ⟨rfl, rfl⟩

/-! ## Turns and histories -/

/-- **A turn passes on what is heard in it**, and nothing else. -/
theorem passed_step (config : Config) (l : Link) (now : Millis) (input : Input) :
    (l.step config now input).effects.filterMap Effect.message? =
        ((l.heard? input).bind WireMessage.application?).toList ∧
      (l.step config now input).effects.filterMap Effect.result? =
        ((l.heard? input).bind WireMessage.result?).toList := by
  cases input with
  | command command => exact (hushed_command command).filterMap
  | timer timer =>
    simp only [step]
    split
    · exact (hushed_fire timer).filterMap
    · exact hushed_nil.filterMap
  | transport event =>
    cases event with
    | connected generation => exact (hushed_connected generation).filterMap
    | connectFailed generation error => exact (hushed_afterSocket generation _).filterMap
    | closed generation error => exact (hushed_afterSocket generation error).filterMap
    | message generation message =>
      cases current : l.lifecycle.isCurrent generation with
      | false =>
        simp only [step, receive, heard?, current]
        exact hushed_nil.filterMap
      | true =>
        simp only [heard?, current, if_true, Option.bind_some]
        exact (hearing_receive current message).passed_eq

/-- **A link passes on everything that it hears**, in order and each once. -/
theorem passed_after (config : Config) (history : History) :
    (effects config history).filterMap Effect.message? =
        (heard config history).filterMap WireMessage.application? ∧
      (effects config history).filterMap Effect.result? =
        (heard config history).filterMap WireMessage.result? := by
  induction history with
  | nil => exact ⟨rfl, rfl⟩
  | cons turn past ih =>
    obtain ⟨now, input⟩ := turn
    obtain ⟨messages, results⟩ := passed_step config (after config past) now input
    simp only [effects, heard, List.filterMap_append, List.filterMap_reverse, messages, results, ih]
    cases (after config past).heard? input with
    | none => exact ⟨rfl, rfl⟩
    | some message =>
      cases told : message.application? <;> cases carried : message.result? <;>
        simp [told, carried]

end Link

end Lookout
