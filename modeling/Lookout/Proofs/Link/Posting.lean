import Mathlib.Data.List.DropRight
import Lookout.Proofs.Link.Resources

/-!
# What a turn does with messages

A message that the client sends is handed to the socket of an open link, dropped on one that has
ended, and waits on any other.  What waits is handed over together when the retry timer fires on an
open link, and given up together when the user ends the link or when its socket ends and no further
attempt is scheduled.  `Link.handling` sorts the turns by this, looking at nothing but the link
before and after.  `Posting` lists what a turn of each sort does (`posting_step`), so that laws
about messages need not open a handler.

## Main definitions

* `Abandonment`, `Handling`, `Link.handling`.
* `Link.handovers` — the messages that a turn hands to sockets, signs of life aside.
* `Link.Posting` — the turns, sorted.
-/

namespace Lookout

/-- Why messages that wait are given up together. -/
inductive Abandonment where
  | userClosed
  /-- all attempts are used up -/
  | linkLost
  /-- the socket of a link that had ended is gone -/
  | stopped (termination : Termination)
  /-- the link has never been open, or not since another console took over -/
  | idle
deriving Repr, DecidableEq

/-- What a turn means to the messages that are sent. -/
inductive Handling where
  /-- a message goes to the socket of a generation at once -/
  | written (generation : Nat) (message : ControlMessage)
  /-- a message is dropped, because the link has ended and is not open -/
  | refused (message : ControlMessage)
  /-- a message comes to wait -/
  | held (message : ControlMessage)
  /-- all that waits goes to the socket of a generation -/
  | flushed (generation : Nat)
  /-- all that waits is given up -/
  | abandoned (cause : Abandonment)
  /-- no message is concerned -/
  | aside

namespace Handling

/-- The message that is sent in a turn. -/
def sent? : Handling → Option ControlMessage
  | written _ message | refused message | held message => some message
  | flushed _ | abandoned _ | aside => none

/-- What waits after a turn, if there is room for so many. -/
def waiting (room : Nat) (pending : List ControlMessage) : Handling → List ControlMessage
  | held message => (pending ++ [message]).rtake room
  | flushed _ | abandoned _ => []
  | written _ _ | refused _ | aside => pending

/-- What a turn hands over, if so much waits. -/
def handed (pending : List ControlMessage) : Handling → List (Nat × String)
  | written generation message => [(generation, message.text)]
  | flushed generation => pending.map fun message => (generation, message.text)
  | refused _ | held _ | abandoned _ | aside => []

end Handling

namespace Link

/-- Why the socket of a link has ended for the present, if no attempt is scheduled. -/
def abandonment? (l l' : Link) : Option Abandonment :=
  if l.state ≠ .disconnected ∧ l'.state = .disconnected ∧ l'.reconnect = none then
    some <| match l.lifecycle.termination, l'.lifecycle.termination with
      | some termination, _ => .stopped termination
      | none, some _ => .linkLost
      | none, none => .idle
  else none

/-- The sort of a turn. -/
def handling (config : Config) (now : Millis) (l : Link) (input : Input) : Handling :=
  match input with
  | .command (.send message) =>
    if l.state = .opened then .written l.lifecycle.generation message
    else if l.lifecycle.isTerminated then .refused message
    else .held message
  | .command .close => .abandoned .userClosed
  | .timer .sendRetry =>
    if l.sendRetry.isSome ∧ l.state = .opened then .flushed l.lifecycle.generation else .aside
  | _ => (l.abandonment? (l.step config now input).link).elim .aside .abandoned

/-- How many messages can wait.  One that comes to wait always finds room for itself. -/
def room (config : Config) : Nat := max 1 config.connection.maxPendingSends

/-- The text that an effect hands to a socket. -/
def handover? : Effect → Option (Nat × String)
  | .hand generation (.text text) => some (generation, text)
  | _ => none

/-- The texts that a turn hands to sockets, with their generations.  A sign of life does not count
when it is due. -/
def handovers (input : Input) (turn : Turn) : List (Nat × String) :=
  match input with
  | .timer .heartbeat =>
    (turn.effects.filterMap handover?).filter (·.2 ≠ ControlMessage.heartbeat.text)
  | _ => turn.effects.filterMap handover?

/-- Whether an effect hands over nothing that counts. -/
def IsMute (input : Input) (effect : Effect) : Prop :=
  handover? effect = none ∨
    input = .timer .heartbeat ∧ ∃ generation, handover? effect =
      some (generation, ControlMessage.heartbeat.text)

/-! ## The sorts of turns -/

/-- What a turn of each sort does with messages. -/
inductive Posting (config : Config) (now : Millis) (l : Link) (input : Input) :
    Handling → Turn → Prop where
  | written {message : ControlMessage} (sends : input = .command (.send message))
      (up : l.state = .opened) :
      Posting config now l input (.written l.lifecycle.generation message)
        ⟨l, [.hand l.lifecycle.generation (.text message.text)]⟩
  | refused {message : ControlMessage} (sends : input = .command (.send message))
      (down : l.state ≠ .opened) (ended : l.lifecycle.isTerminated = true) :
      Posting config now l input (.refused message) l.idle
  | held {message : ControlMessage} {due : Millis} (sends : input = .command (.send message))
      (down : l.state ≠ .opened) (free : l.lifecycle.isTerminated = false) :
      Posting config now l input (.held message)
        { l with pending := hold config message l.pending, sendRetry := some due }.idle
  | flushed (fires : input = .timer .sendRetry) (up : l.state = .opened) :
      Posting config now l input (.flushed l.lifecycle.generation)
        ⟨{ l with pending := [], sendRetry := none },
          l.pending.map fun message => .hand l.lifecycle.generation (.text message.text)⟩
  /-- what waits is tried again later, or when the link is next open -/
  | retried {retry : Option Millis} (fires : input = .timer .sendRetry) (down : l.state ≠ .opened)
      (rearmed : retry.isSome ↔
        l.pending ≠ [] ∧ (l.state ≠ .disconnected ∨ l.reconnect.isSome)) :
      Posting config now l input .aside { l with sendRetry := retry }.idle
  | abandoned {cause : Abandonment} {turn : Turn} (dropped : turn.link.pending = [])
      (unarmed : turn.link.sendRetry = none) (mute : ∀ effect ∈ turn.effects, IsMute input effect) :
      Posting config now l input (.abandoned cause) turn
  | spared {turn : Turn} (kept : turn.link.pending = l.pending)
      (retry : turn.link.sendRetry = l.sendRetry ∨
        turn.link.sendRetry.isSome ∧ l.pending ≠ [])
      (mute : ∀ effect ∈ turn.effects, IsMute input effect) :
      Posting config now l input .aside turn

section
variable {config : Config} {now : Millis} {l : Link} {input : Input} {turn : Turn}

/-- A turn on a link that stays down, or does not go down, gives nothing up. -/
theorem abandonment?_eq_none {l' : Link}
    (kept : l'.state = .disconnected → l.state = .disconnected) : l.abandonment? l' = none := by
  rw [abandonment?, if_neg]
  rintro ⟨up, down, -⟩
  exact up (kept down)

theorem Posting.of_spared {link : Link} {effects : List Effect}
    (stays : link.state = .disconnected → l.state = .disconnected)
    (kept : link.pending = l.pending)
    (retry : link.sendRetry = l.sendRetry ∨ link.sendRetry.isSome ∧ l.pending ≠ [])
    (mute : ∀ effect ∈ effects, IsMute input effect) :
    Posting config now l input ((l.abandonment? link).elim .aside .abandoned) ⟨link, effects⟩ := by
  rw [abandonment?_eq_none stays]
  exact .spared kept retry mute

theorem mute_singleton {effect : Effect} (silent : handover? effect = none) :
    ∀ other ∈ [effect], IsMute input other := by
  intro other member
  rw [List.mem_singleton.1 member]
  exact .inl silent

theorem Posting.idle :
    Posting config now l input ((l.abandonment? l).elim .aside .abandoned) l.idle :=
  .of_spared id rfl (.inl rfl) nofun

/-- The end of a socket hands nothing over. -/
theorem Ending.mute {error : Option Error} (ending : Ending now error l turn) {effect : Effect}
    (member : effect ∈ turn.effects) : handover? effect = none := by
  cases effect with
  | hand generation message => exact absurd member (ending.not_hand generation message)
  | _ => rfl

/-- Messages wait for the next attempt after the end of a socket, or are given up. -/
theorem Ending.posting {error : Option Error} (ending : Ending now error l turn)
    (up : l.state ≠ .disconnected) (unarmed : l.reconnect = none) :
    Posting config now l input ((l.abandonment? turn.link).elim .aside .abandoned) turn := by
  have mute : ∀ effect ∈ turn.effects, IsMute input effect := fun _ member =>
    .inl (ending.mute member)
  cases ending with
  | retried free eligible left =>
    rw [abandonment?, if_neg (by simp)]
    exact .spared rfl (.inl rfl) mute
  | lost | stopped | idle =>
    rw [abandonment?, if_pos ⟨up, rfl, unarmed⟩]
    exact .abandoned rfl rfl mute

/-- An attempt leaves alone what waits. -/
theorem posting_dialing (url : String) :
    Posting config now l input ((l.abandonment? (l.dialing url)).elim .aside .abandoned)
      ⟨l.dialing url, [.dial (l.lifecycle.generation + 1) url]⟩ :=
  .of_spared nofun rfl (.inl rfl) (mute_singleton rfl)

theorem posting_connect (url : String) :
    Posting config now l input ((l.abandonment? (l.connect url).link).elim .aside .abandoned)
      (l.connect url) := by
  by_cases down : l.state = .disconnected
  · rw [connect_eq url down]
    exact posting_dialing url
  · rw [connect, if_neg down]
    exact .idle

theorem posting_send (sound : Sound config l) (message : ControlMessage) :
    Posting config now l (.command (.send message))
      (l.handling config now (.command (.send message))) (l.send config now message) := by
  by_cases up : l.state = .opened
  · have held : l.socket = some l.lifecycle.generation := sound.socket_eq_some (by simp [up])
    have turn : l.send config now message =
        ⟨l, [.hand l.lifecycle.generation (.text message.text)]⟩ := by
      simp [send, up, write, hand, held]
    rw [turn, handling, if_pos up]
    exact .written rfl up
  · cases ended : l.lifecycle.isTerminated with
    | true =>
      simp only [send, handling, up, ended, if_true, if_false]
      exact .refused rfl up ended
    | false =>
      simp only [send, handling, up, ended, if_false]
      exact .held rfl up ended

/-- The end of a socket leaves nothing waiting where nothing waited. -/
theorem Ending.pending_eq_nil {error : Option Error} (ending : Ending now error l turn)
    (pending : l.pending = []) (unarmed : l.sendRetry = none) :
    turn.link.pending = [] ∧ turn.link.sendRetry = none := by
  cases ending with
  | retried => exact ⟨pending, unarmed⟩
  | lost | stopped | idle => exact ⟨rfl, rfl⟩

theorem posting_close (sound : Sound config l) :
    Posting config now l (.command .close) (.abandoned .userClosed) (l.close now) := by
  have course : Course config now l (.command .close) (l.close now) := course_close sound
  generalize l.close now = turn at course
  cases course with
  | steady minor same quiet => exact absurd trivial minor
  | dialed cause down => rcases cause with cause | ⟨cause, -⟩ <;> cases cause
  | abandoned down => exact .abandoned rfl rfl (by simp)
  | closed up ending =>
    obtain ⟨dropped, unarmed⟩ := ending.pending_eq_nil rfl rfl
    refine .abandoned dropped unarmed fun effect member => .inl ?_
    rcases List.mem_cons.1 member with rfl | member
    · rfl
    · exact ending.mute member
  | ended cause up ending =>
    rcases cause with cause | ⟨_, -, cause⟩ | cause | cause <;> cases cause

theorem posting_connected (generation : Nat) :
    Posting config now l input
      ((l.abandonment? (l.connected config now generation).link).elim .aside .abandoned)
      (l.connected config now generation) := by
  by_cases present : l.state = .connecting ∧ generation = l.lifecycle.generation
  · obtain ⟨connecting, rfl⟩ := present
    by_cases waits : l.pending = []
    · have turn : l.connected config now l.lifecycle.generation =
          ⟨l.opening config now, [.notify .opened]⟩ := by
        simp [connected, Lifecycle.opened, connecting, waits, Link.idle, Turn.notify, Turn.also,
          opening, publish]
      rw [turn]
      exact .of_spared (fun down => by cases down) rfl (.inl rfl) (mute_singleton rfl)
    · have turn : l.connected config now l.lifecycle.generation =
          ⟨(l.opening config now).armSendRetry config now, [.notify .opened]⟩ := by
        simp [connected, Lifecycle.opened, connecting, waits, armSendRetry, Link.idle, Turn.notify,
          Turn.also, opening, publish]
      rw [turn]
      exact .of_spared (fun down => by cases down) rfl (.inr ⟨rfl, waits⟩) (mute_singleton rfl)
  · simp only [connected, Lifecycle.opened, present, if_false]
    exact .idle

theorem posting_afterSocket (sound : Sound config l) (generation : Nat) (error : Option Error) :
    Posting config now l input
      ((l.abandonment? (l.afterSocket now generation error).link).elim .aside .abandoned)
      (l.afterSocket now generation error) := by
  cases current : l.lifecycle.isCurrent generation with
  | false =>
    rw [afterSocket_stale current]
    exact .idle
  | true =>
    obtain ⟨rfl, up⟩ := isCurrent_iff.1 current
    exact (afterSocket_ending up now error).posting up (sound.reconnect_eq_none up)

theorem posting_receive (generation : Nat) (message : WireMessage) :
    Posting config now l input
      ((l.abandonment? (l.receive config now generation message).link).elim .aside .abandoned)
      (l.receive config now generation message) := by
  have alive : Posting config now l input
      ((l.abandonment? { l with lastInbound := now }).elim .aside .abandoned)
      { l with lastInbound := now }.idle := .of_spared id rfl (.inl rfl) nofun
  cases current : l.lifecycle.isCurrent generation with
  | false =>
    simp only [receive, current]
    exact .idle
  | true =>
    simp only [receive, current, if_true]
    cases message with
    | binary raw => exact .of_spared id rfl (.inl rfl) (mute_singleton rfl)
    | close => exact alive
    | text text =>
      simp only [receiveText]
      split
      · exact alive
      · split
        · by_cases up : l.state = .opened
          · simp only [announced, Lifecycle.serverClosing, up, if_true]
            exact .of_spared (fun down => by cases down) rfl (.inl rfl) (List.forall_mem_nil _)
          · simp only [announced, Lifecycle.serverClosing, up, if_false]
            exact alive
        · exact .of_spared id rfl (.inl rfl) (mute_singleton rfl)
        · refine .of_spared id rfl (.inl rfl) fun effect member => .inl ?_
          rcases aside_of_heard member with ⟨_, rfl⟩ | ⟨_, rfl⟩ <;> rfl

/-- All that waits is written on an open link. -/
theorem onSendRetry_of_opened {generation : Nat} (up : l.state = .opened)
    (held : l.socket = some generation) (config : Config) (now : Millis) :
    l.onSendRetry config now = ⟨{ l with pending := [] },
      l.pending.map fun message => .hand generation (.text message.text)⟩ := by
  by_cases waits : l.pending = []
  · have same : { l with pending := [] } = l := by rw [← waits]
    simp [onSendRetry, waits, same, Link.idle]
  · have each : (fun message => (l.write message).effects) =
        fun message => [.hand generation (.text message.text)] := by
      funext message
      simp [write, hand, held]
    simp only [onSendRetry, List.isEmpty_iff, waits, up, each, if_true, if_false]
    rw [List.map_eq_flatMap]

/-- On any other link it is tried again later, as long as an attempt runs or is scheduled. -/
theorem onSendRetry_of_not_opened (down : l.state ≠ .opened) (unarmed : l.sendRetry = none)
    (config : Config) (now : Millis) :
    ∃ retry : Option Millis, l.onSendRetry config now = { l with sendRetry := retry }.idle ∧
      (retry.isSome ↔ l.pending ≠ [] ∧ (l.state ≠ .disconnected ∨ l.reconnect.isSome)) := by
  have same : { l with sendRetry := none } = l := by rw [← unarmed]
  simp only [onSendRetry, List.isEmpty_iff, down, if_false]
  split
  · next nothing => exact ⟨none, by rw [same], by simp [nothing]⟩
  · next waits =>
    split
    · next tries =>
      refine ⟨_, rfl, fun _ => ⟨waits, ?_⟩, fun _ => rfl⟩
      simpa using tries
    · next parked =>
      refine ⟨none, by rw [same], ?_⟩
      simpa [waits] using parked

theorem posting_sendRetry (sound : Sound config l) (armed : l.sendRetry.isSome) :
    Posting config now l (.timer .sendRetry) (l.handling config now (.timer .sendRetry))
      (l.fire config now .sendRetry) := by
  by_cases up : l.state = .opened
  · have held : l.socket = some l.lifecycle.generation := sound.socket_eq_some (by simp [up])
    have flushed := onSendRetry_of_opened (l := { l with sendRetry := none }) up held config now
    rw [handling, if_pos ⟨armed, up⟩, fire, flushed]
    exact .flushed rfl up
  · obtain ⟨retry, turn, rearmed⟩ :=
      onSendRetry_of_not_opened (l := { l with sendRetry := none }) up rfl config now
    rw [handling, if_neg fun ready => up ready.2, fire, turn]
    exact .retried rfl up rearmed

/-- A sign of life is no message of the client. -/
theorem posting_heartbeat (sound : Sound config l) (armed : l.heartbeat.isSome) :
    Posting config now l (.timer .heartbeat)
      ((l.abandonment? (l.fire config now .heartbeat).link).elim .aside .abandoned)
      (l.fire config now .heartbeat) := by
  have up : l.state ≠ .disconnected := by simp [sound.heartbeat_iff.1 armed]
  have ending := afterSocket_ending (l :=
    { l with heartbeat := l.heartbeat.map (· + config.connection.heartbeatInterval) }) up now
  have beat : Posting config now l (.timer .heartbeat)
      ((l.abandonment? (write .heartbeat { l with
        heartbeat := l.heartbeat.map (· + config.connection.heartbeatInterval) }).link).elim
          .aside .abandoned)
      (write .heartbeat { l with
        heartbeat := l.heartbeat.map (· + config.connection.heartbeatInterval) }) := by
    refine .of_spared id rfl (.inl rfl) fun effect written => .inr ⟨rfl, ?_⟩
    obtain ⟨generation, -, rfl⟩ := List.mem_map.1 written
    exact ⟨generation, rfl⟩
  simp only [fire, onHeartbeat]
  split
  · split
    · exact (ending _).of_timers.posting up (sound.reconnect_eq_none up)
    · exact beat
  · exact beat

theorem posting_timer (sound : Sound config l) (timer : Timer)
    (armed : (l.deadline timer).isSome) :
    Posting config now l (.timer timer) (l.handling config now (.timer timer))
      (l.fire config now timer) := by
  have fired : l.step config now (.timer timer) = l.fire config now timer := if_pos armed
  cases timer with
  | sendRetry => exact posting_sendRetry sound armed
  | heartbeat =>
    simp only [handling, fired]
    exact posting_heartbeat sound armed
  | reconnect =>
    obtain ⟨url, -, dialed⟩ := fire_reconnect sound armed
    simp only [handling, fired, dialed]
    exact posting_dialing url
  | closeGrace =>
    have closing : l.state = .closing := sound.closeGrace_iff.1 armed
    have up : l.state ≠ .disconnected := by simp [closing]
    obtain ⟨error, ending⟩ := ending_closeGrace closing config now
    simp only [handling, fired]
    exact ending.posting up (sound.reconnect_eq_none up)
  | metrics =>
    simp only [handling, fired]
    exact .of_spared id rfl (.inl rfl) (mute_singleton rfl)

/-- **What a turn does with messages**, whatever it answers. -/
theorem posting_step (sound : Sound config l) (now : Millis) (input : Input) :
    Posting config now l input (l.handling config now input) (l.step config now input) := by
  cases input with
  | command command =>
    cases command with
    | connect url => exact posting_connect url
    | send message => exact posting_send sound message
    | close => exact posting_close sound
  | transport event =>
    cases event with
    | connected generation => exact posting_connected generation
    | connectFailed generation error => exact posting_afterSocket sound generation _
    | message generation message => exact posting_receive generation message
    | closed generation error => exact posting_afterSocket sound generation error
  | timer timer =>
    by_cases armed : (l.deadline timer).isSome = true
    · rw [step, if_pos armed]
      exact posting_timer sound timer armed
    · have still : l.step config now (.timer timer) = l.idle := if_neg armed
      rw [still]
      cases timer with
      | sendRetry =>
        rw [handling, if_neg fun ready => armed ready.1]
        exact .spared rfl (.inl rfl) (List.forall_mem_nil _)
      | heartbeat | reconnect | closeGrace | metrics =>
        simp only [handling, still]
        exact .idle

/-! ## What waits and what is handed over -/

/-- The latest messages stay, as many as there is room for. -/
theorem hold_eq {pending : List ControlMessage} (bound : pending.length ≤ room config)
    (message : ControlMessage) :
    hold config message pending = (pending ++ [message]).rtake (room config) := by
  have last : pending.length + 1 - room config ≤ pending.length := by
    simp only [room]
    omega
  rw [List.rtake, List.length_append, List.length_singleton, List.drop_append_of_le_length last,
    hold]
  congr 1
  simp only [room] at bound ⊢
  split
  · next full =>
    by_cases empty : pending = []
    · simp [empty]
    · have occupied : 0 < pending.length := List.length_pos_iff.2 empty
      rw [show pending.length + 1 - max 1 config.connection.maxPendingSends = 1 by omega]
  · next free =>
    rw [show pending.length + 1 - max 1 config.connection.maxPendingSends = 0 by omega,
      List.drop_zero]

variable {sort : Handling}

theorem Posting.pending_eq (posting : Posting config now l input sort turn)
    (bound : l.pending.length ≤ room config) :
    turn.link.pending = sort.waiting (room config) l.pending := by
  cases posting with
  | held => exact hold_eq bound _
  | abandoned dropped => exact dropped
  | spared kept => exact kept
  | written | refused | flushed | retried => rfl

theorem handovers_eq_nil (mute : ∀ effect ∈ turn.effects, IsMute input effect) :
    handovers input turn = [] := by
  have beats {handover : Nat × String} (member : handover ∈ turn.effects.filterMap handover?) :
      input = .timer .heartbeat ∧ handover.2 = ControlMessage.heartbeat.text := by
    obtain ⟨effect, old, handed⟩ := List.mem_filterMap.1 member
    rcases mute effect old with none | ⟨beat, generation, same⟩
    · cases none.symm.trans handed
    · cases same.symm.trans handed
      exact ⟨beat, rfl⟩
  have silent (other : input ≠ .timer .heartbeat) : turn.effects.filterMap handover? = [] :=
    List.eq_nil_iff_forall_not_mem.2 fun _ member => other (beats member).1
  simp only [handovers]
  split
  · rw [List.filter_eq_nil_iff]
    intro handover member
    simp [(beats member).2]
  · next other => exact silent other

theorem Posting.handovers_eq (posting : Posting config now l input sort turn) :
    handovers input turn = sort.handed l.pending := by
  cases posting with
  | written sends => rw [sends]; rfl
  | flushed fires =>
    simp only [fires, handovers, List.filterMap_map]
    exact congrFun (@List.filterMap_eq_map _ _ fun message : ControlMessage =>
      (l.lifecycle.generation, message.text)) l.pending
  | refused | held | retried => exact handovers_eq_nil nofun
  | abandoned dropped unarmed mute => exact handovers_eq_nil mute
  | spared kept retry mute => exact handovers_eq_nil mute

end

end Link
end Lookout
