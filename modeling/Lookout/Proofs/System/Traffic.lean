import Lookout.Proofs.System.Delivery
import Lookout.Proofs.System.Writing

/-!
# What a move means to a socket

In a move the link may post messages to sockets and let a socket go, a new socket may be dialed, or
the task of one socket takes a step; all other moves leave every socket with its queue as it is
(`Traffic`, `traffic_move`).  A link posts only to the socket that it holds, and a close message is
all that it posts in its turn, in which it lets the socket go.

## Main definitions

* `System.posts` — what the link posts to the socket of a generation in a move.
* `System.exchanged` — what the task of a socket does at the device in a move.
* `Supplied`, `Traffic` — a socket, and all sockets, after a move.
-/

namespace Lookout

/-! ## What a turn posts -/

theorem filterMap_handed_eq_nil {generation : Nat} {effects : List Effect}
    (none : ∀ message, .hand generation message ∉ effects) :
    effects.filterMap (Effect.handed? generation) = [] := by
  rw [List.filterMap_eq_nil_iff]
  intro effect member
  cases effect with
  | hand other message =>
    refine if_neg ?_
    rintro rfl
    exact none message member
  | _ => rfl

theorem mem_filterMap_handed {generation : Nat} {effects : List Effect} {message : WireMessage} :
    message ∈ effects.filterMap (Effect.handed? generation) ↔
      .hand generation message ∈ effects := by
  rw [List.mem_filterMap]
  constructor
  · rintro ⟨effect, member, handed⟩
    cases effect with
    | hand other message' =>
      obtain ⟨rfl, rfl⟩ : other = generation ∧ message' = message := by
        simpa [Effect.handed?] using handed
      exact member
    | _ => cases handed
  · intro member
    exact ⟨_, member, if_pos rfl⟩

namespace Link

variable {config : Config} {now : Millis} {l : Link} {input : Input} {turn : Turn}

/-- A link that holds a socket is not down, and the socket is that of its generation. -/
theorem Sound.of_socket_eq_some (sound : Sound config l) {generation : Nat}
    (held : l.socket = some generation) :
    l.state ≠ .disconnected ∧ l.lifecycle.generation = generation := by
  have up : l.state ≠ .disconnected := by
    intro down
    rw [sound.socket_eq, if_pos down] at held
    cases held
  rw [sound.socket_eq_some up] at held
  exact ⟨up, Option.some.inj held⟩

/-- A link posts to the socket that it holds. -/
theorem Course.held_of_hand (course : Course config now l input turn) (sound : Sound config l)
    {generation : Nat} {message : WireMessage}
    (handed : .hand generation message ∈ turn.effects) : l.socket = some generation := by
  cases course with
  | steady minor same quiet =>
    have opened := quiet _ handed
    cases message with
    | text => exact opened.2
    | binary | close => exact opened.elim
  | heard inbound current =>
    rcases aside_of_heard handed with ⟨_, eq⟩ | ⟨_, eq⟩ <;> cases eq
  | closed up ending =>
    rcases List.mem_cons.1 handed with first | handed
    · cases first
      exact sound.socket_eq_some up
    · exact absurd handed (ending.not_hand _ _)
  | ended cause up ending => exact absurd handed (ending.not_hand _ _)
  | dialed | opened | superseded => cases List.mem_singleton.1 handed
  | announced | abandoned => cases handed

/-- A user who closes a link that is not down posts just a close message. -/
theorem Ending.posts_close {error : Option Error} (ending : Ending now error l turn)
    (generation : Nat) :
    (Effect.hand generation .close :: turn.effects).filterMap (Effect.handed? generation) =
      [.close] := by
  have first : Effect.handed? generation (.hand generation .close) = some .close := if_pos rfl
  rw [List.filterMap_cons_some first, filterMap_handed_eq_nil (ending.not_hand generation)]

theorem Course.posts_close (course : Course config now l (.command .close) turn)
    (up : l.state ≠ .disconnected) :
    turn.effects.filterMap (Effect.handed? l.lifecycle.generation) = [.close] := by
  cases course with
  | steady minor => exact absurd trivial minor
  | dialed cause down => exact absurd down up
  | abandoned down => exact absurd down up
  | closed up ending => exact ending.posts_close _
  | ended cause => rcases cause with cause | ⟨_, _, cause⟩ | cause | cause <;> cases cause

/-- A close message is posted alone. -/
theorem Course.posts_of_close (course : Course config now l input turn) {generation : Nat}
    (handed : .hand generation .close ∈ turn.effects) :
    turn.effects.filterMap (Effect.handed? generation) = [.close] := by
  cases course with
  | steady minor same quiet => exact (quiet _ handed).elim
  | heard inbound current =>
    rcases aside_of_heard handed with ⟨_, eq⟩ | ⟨_, eq⟩ <;> cases eq
  | closed up ending =>
    rcases List.mem_cons.1 handed with first | handed
    · cases first
      exact ending.posts_close _
    · exact absurd handed (ending.not_hand _ _)
  | ended cause up ending => exact absurd handed (ending.not_hand _ _)
  | dialed | opened | superseded => cases List.mem_singleton.1 handed
  | announced | abandoned => cases handed

end Link

/-- What an effect does to one socket. -/
def Effect.onSocket (k : Socket) : Effect → Socket
  | .hand generation message =>
    if k.generation == generation then System.Socket.enqueue message k else k
  | .release generation => if k.generation == generation then { k with released := true } else k
  | _ => k

/-- Effects that dial nothing act on each socket by itself. -/
theorem foldl_onSockets {effects : List Effect}
    (not_dial : ∀ generation url, .dial generation url ∉ effects) (sockets : List Socket) :
    effects.foldl Effect.onSockets sockets =
      sockets.map fun k => effects.foldl Effect.onSocket k := by
  induction effects generalizing sockets with
  | nil => exact (List.map_id sockets).symm
  | cons effect effects ih =>
    have first : Effect.onSockets sockets effect = sockets.map (Effect.onSocket · effect) := by
      cases effect with
      | dial generation url => exact absurd (.head _) (not_dial generation url)
      | hand | release => rfl
      | _ => exact (List.map_id sockets).symm
    rw [List.foldl_cons, first, ih fun generation url member =>
      not_dial generation url (.tail _ member), List.map_map]
    rfl

/-- A socket keeps its number whatever the link does to it. -/
theorem number_onSocket (effects : List Effect) (k : Socket) :
    (effects.foldl Effect.onSocket k).number = k.number := by
  induction effects generalizing k with
  | nil => rfl
  | cons effect effects ih =>
    rw [List.foldl_cons, ih]
    cases effect with
    | hand =>
      simp only [Effect.onSocket, System.Socket.enqueue]
      split
      · split <;> rfl
      · rfl
    | release =>
      simp only [Effect.onSocket]
      split <;> rfl
    | _ => rfl

/-- Whether the task of the socket of a generation is to go on in a move. -/
def Move.polls (generation : Nat) : Move → Bool
  | .act (.poll other) => other == generation
  | _ => false

/-- A move that is no step of a socket. -/
def Move.IsAside (m : Move) : Prop :=
  ∀ generation, m ≠ .act (.poll generation) ∧ m ≠ .act (.attempt generation)

theorem Move.IsAside.polls_eq_false {m : Move} (aside : m.IsAside) (generation : Nat) :
    m.polls generation = false := by
  simp only [Move.polls]
  split
  · exact absurd rfl (aside _).1
  · rfl

namespace System

/-- What the link posts to the socket of a generation in a move. -/
def posts (s : System) (generation : Nat) (m : Move) : List WireMessage :=
  match s.input? m with
  | some input =>
    (s.link.step s.config s.now input).effects.filterMap (Effect.handed? generation)
  | none => []

/-- What the task of the socket of a generation does at the device in a move. -/
def exchanged (s : System) (generation : Nat) (m : Move) : Option Exchange :=
  if m.polls generation then (s.socket? generation).bind s.exchange? else none

/-! ## Moves -/

/-- A socket after a move in which messages are posted to it. -/
structure Supplied (posts : List WireMessage) (k k' : Socket) : Prop where
  generation_eq : k'.generation = k.generation
  phase_eq : k'.phase = k.phase
  number_eq : k'.number = k.number
  outbound_eq : k'.outbound = k.outbound ++ if k.phase = .ended then [] else posts
  /-- nothing is posted to a socket that has been let go -/
  released : k.released = true → posts = [] ∧ k'.released = true
  /-- a close message is posted alone, and the socket is let go -/
  close : .close ∈ posts → posts = [.close] ∧ k'.released = true

/-- A socket whose queue nobody touches. -/
theorem Supplied.of_kept {k k' : Socket} (generation_eq : k'.generation = k.generation)
    (phase_eq : k'.phase = k.phase) (number_eq : k'.number = k.number)
    (outbound_eq : k'.outbound = k.outbound) (released_eq : k'.released = k.released) :
    Supplied [] k k' where
  generation_eq := generation_eq
  phase_eq := phase_eq
  number_eq := number_eq
  outbound_eq := by rw [outbound_eq, ite_self, List.append_nil]
  released gone := ⟨rfl, released_eq.trans gone⟩
  close := nofun

theorem Supplied.refl (k : Socket) : Supplied [] k k := .of_kept rfl rfl rfl rfl rfl

/-- What a move does to the sockets and the outlet. -/
inductive Traffic (s : System) (m : Move) (s' : System) : Prop where
  /-- messages are posted, and whatever task goes on has nothing to do -/
  | supplied {f : Socket → Socket}
      (each : ∀ k ∈ s.sockets, Supplied (s.posts k.generation m) k (f k))
      (born : ∀ generation, s.posts generation m ≠ [] →
        generation ∈ s.sockets.map (·.generation))
      (idle : ∀ k ∈ s.sockets, m.polls k.generation = true → s.canPoll k = false)
      (sockets_eq : s'.sockets = s.sockets.map f) (outlet_eq : s'.outlet = s.outlet)
  | dialed {generation : Nat} {url : String} (mute : ∀ generation, s.posts generation m = [])
      (unborn : generation ∉ s.sockets.map (·.generation))
      (idle : ∀ generation, m.polls generation = false)
      (sockets_eq : s'.sockets = s.sockets ++ [freshSocket generation url])
      (outlet_eq : s'.outlet = s.outlet)
  /-- the task of a socket takes a step -/
  | pumped {k : Socket} {x : Option Exchange} {f : Socket → Socket} (member : k ∈ s.sockets)
      (mute : ∀ generation, s.posts generation m = [])
      (exchanged : ∀ generation,
        s.exchanged generation m = if generation = k.generation then x else none)
      (apart : ∀ generation, m.polls generation = true → generation = k.generation)
      (pump : Pump s k x (f k) s'.outlet)
      (sockets_eq : s'.sockets = (s.updateSocket k.generation f).sockets)

section
variable {s : System} {m : Move} {handled : List TransportEvent} {arrived : Nat → List Arrival}

theorem Coherent.socket?_eq (coherent : Coherent s handled arrived) {k : Socket}
    (member : k ∈ s.sockets) : s.socket? k.generation = some k := by
  cases found : s.socket? k.generation with
  | none =>
    have absent := List.find?_eq_none.1 found k member
    simp at absent
  | some other =>
    have same : other.generation = k.generation := by simpa using List.find?_some found
    rw [coherent.eq_of_generation member (List.mem_of_find?_eq_some found) same]

theorem exchange?_eq_none {k : Socket} (idle : s.canPoll k = false) : s.exchange? k = none := by
  by_cases running : k.phase = .running
  · have ⟨⟨empty, unmet⟩, held⟩ : (k.outbound = [] ∧ k.inbound = []) ∧ s.cancelled k = false := by
      simpa [canPoll, running] using idle
    have held : k.released = false := (Bool.or_eq_false_iff.1 held).1
    simp [exchange?, empty, unmet, held]
  · exact if_neg running

/-- Moves other than a step of a socket write nothing. -/
theorem outlet_move (aside : m.IsAside) : (s.move m).outlet = s.outlet := by
  cases m with
  | act action =>
    simp only [move]
    split
    · cases action with
      | stop => exact outlet_commit { s with driving := false, commands := [], transport := [] } _
      | command =>
        simp only [act]
        split
        · rfl
        · exact outlet_commit { s with commands := _ } _
      | transport =>
        simp only [act]
        split
        · rfl
        · exact outlet_commit { s with transport := _ } _
      | timer timer => exact outlet_commit s _
      | poll generation => exact absurd rfl (aside generation).1
      | attempt generation => exact absurd rfl (aside generation).2
      | tick session =>
        simp only [act]
        split
        · exact outlet_tickLoop s _
        · rfl
      | finish => exact outlet_finish s
    · rfl
  | connect url => exact outlet_connect s url
  | connectConfigured => exact outlet_connectConfigured s
  | send | close => exact outlet_order s _
  | startStreams bindings => exact outlet_startStreams s bindings
  | stopStreams channels => exact outlet_stopStreams s channels
  | pushResult result => exact outlet_pushResult s result
  | arrive number arrival => exact outlet_arrive s number arrival
  | hangUp number => exact outlet_hangUp s number
  | play channel player => exact outlet_play s channel player
  | shutDown | drop | arrange | wait => rfl

/-- A stride that answers nothing and is no step of a socket leaves the queues as they are. -/
theorem exists_supplied_of_silent (kept : s.shutDown = false) (silent : s.input? m = none)
    (aside : m.IsAside) :
    ∃ f, (s.move m).sockets = s.sockets.map f ∧ ∀ k, Supplied [] k (f k) := by
  have left {s' : System} (done : Performed s [] s') :
      ∃ f, s'.sockets = s.sockets.map f ∧ ∀ k, Supplied [] k (f k) :=
    ⟨id, done.sockets_eq.trans (List.map_id _).symm, .refl⟩
  have came (generation : Nat) (f : Socket → Socket) (each : ∀ k, Supplied [] k (f k)) :
      ∃ g, (s.updateSocket generation f).sockets = s.sockets.map g ∧
        ∀ k, Supplied [] k (g k) := by
    refine ⟨_, rfl, fun k => ?_⟩
    split
    · exact each k
    · exact .refl k
  cases m with
  | act action =>
    by_cases enabled : s.enabled action = true
    · simp only [move, if_pos enabled]
      cases action with
      | stop => simp [System.enabled, kept] at enabled
      | command =>
        simp only [System.enabled, Bool.and_eq_true] at enabled
        cases waiting : s.commands with
        | nil => simp [waiting] at enabled
        | cons => simp [input?, System.enabled, enabled, waiting] at silent
      | transport =>
        simp only [System.enabled, Bool.and_eq_true] at enabled
        cases waiting : s.transport with
        | nil => simp [waiting] at enabled
        | cons => simp [input?, System.enabled, enabled, waiting] at silent
      | timer => simp [input?, enabled] at silent
      | poll generation => exact absurd rfl (aside generation).1
      | attempt generation => exact absurd rfl (aside generation).2
      | tick session =>
        simp only [act]
        split
        · exact left (performed_tickLoop s _)
        · exact left (.refl s)
      | finish => exact left (performed_finish s)
    · simp only [move, if_neg enabled]
      exact left (.refl s)
  | connect url => exact left (performed_connect s url)
  | connectConfigured => exact left (performed_connectConfigured s)
  | send | close => exact left (performed_order s _)
  | startStreams bindings => exact left (performed_startStreams s bindings)
  | stopStreams channels => exact left (performed_stopStreams s channels)
  | pushResult result => exact left (performed_pushResult s result)
  | shutDown | drop => exact ⟨id, (List.map_id _).symm, .refl⟩
  | arrive number arrival =>
    simp only [move, arrive]
    split
    · exact left (.refl s)
    · split
      · exact left (.refl s)
      · exact came _ _ fun _ => .of_kept rfl rfl rfl rfl rfl
  | hangUp number =>
    simp only [move, hangUp]
    split
    · exact left (.refl s)
    · split
      · exact left (.refl s)
      · exact came _ _ fun _ => .of_kept rfl rfl rfl rfl rfl
  | play channel player => exact left (performed_play s channel player)
  | arrange | wait => exact ⟨id, (List.map_id _).symm, .refl⟩

/-- A turn that dials nothing supplies each socket with what it posts to it. -/
theorem Coherent.supplied (coherent : Coherent s handled arrived) {input : Input}
    (keeps : s.link.Keeps (s.link.step s.config s.now input)) {k : Socket}
    (member : k ∈ s.sockets) :
    Supplied ((s.link.step s.config s.now input).effects.filterMap
        (Effect.handed? k.generation)) k
      ((s.link.step s.config s.now input).effects.foldl Effect.onSocket k) := by
  have course : Link.Course s.config s.now s.link input _ :=
    Link.course_step coherent.sound s.now input
  -- What is known of any list of sockets is used for the list of this one.
  have single := foldl_onSockets keeps.not_dial [k]
  obtain ⟨k', member', queued⟩ :=
    exists_queued (s.link.step s.config s.now input).effects (List.mem_singleton_self k)
  obtain ⟨f, mapped, served⟩ := exists_served _ [k] keeps.not_dial
  rw [single, List.map_singleton, List.mem_singleton] at member'
  rw [single, List.map_singleton, List.map_singleton, List.singleton_inj] at mapped
  subst member'
  have served := served k
  rw [← mapped] at served
  refine ⟨queued.generation_eq, queued.phase_eq, number_onSocket _ k, queued.outbound_eq, ?_, ?_⟩
  · intro gone
    refine ⟨filterMap_handed_eq_nil fun message handed => ?_, served.released_iff.2 (.inl gone)⟩
    have held := (coherent.fits k member).held_iff.2 (course.held_of_hand coherent.sound handed)
    cases held.symm.trans gone
  · intro close
    have handed := mem_filterMap_handed.1 close
    exact ⟨course.posts_of_close handed,
      served.released_iff.2 (.inr (keeps.close _ handed))⟩

theorem posts_of_silent (silent : s.input? m = none) (generation : Nat) :
    s.posts generation m = [] := by
  simp only [posts, silent]

theorem Coherent.exchanged_eq (coherent : Coherent s handled arrived) {k : Socket}
    (member : k ∈ s.sockets) :
    s.exchanged k.generation m = if m.polls k.generation then s.exchange? k else none := by
  rw [exchanged, coherent.socket?_eq member]
  rfl

/-- A user who closes the link posts a close message to the socket that it holds. -/
theorem Coherent.posts_close (coherent : Coherent s handled arrived) {k : Socket}
    (member : k ∈ s.sockets) (held : k.released = false)
    (closes : s.input? m = some (.command .close)) : s.posts k.generation m = [.close] := by
  obtain ⟨up, own⟩ :=
    coherent.sound.of_socket_eq_some ((coherent.fits k member).held_iff.1 held)
  simp only [posts, closes]
  rw [← own]
  exact (Link.course_step coherent.sound s.now (.command .close)).posts_close up

/-- The link answers. -/
theorem Coherent.traffic_answered (coherent : Coherent s handled arrived) {input : Input}
    (answers : s.input? m = some input) : Traffic s m (s.move m) := by
  have aside : m.IsAside := by
    intro generation
    constructor <;> rintro rfl <;> simp [input?] at answers
  have sockets_eq : (s.move m).sockets =
      (s.link.step s.config s.now input).effects.foldl Effect.onSockets s.sockets := by
    have stride := stride_move s m
    rw [answers] at stride
    generalize s.arrival? m = arrival at stride
    cases stride with
    | answered driving taken done => exact done.sockets_eq
  have posts_eq (generation : Nat) : s.posts generation m =
      (s.link.step s.config s.now input).effects.filterMap (Effect.handed? generation) := by
    simp only [posts, answers]
  have course : Link.Course s.config s.now s.link input _ :=
    Link.course_step coherent.sound s.now input
  rcases course.dials_or_keeps coherent.sound with ⟨url, turn, -, -⟩ | keeps
  · rw [turn] at sockets_eq posts_eq
    refine .dialed posts_eq ?_ aside.polls_eq_false sockets_eq (outlet_move aside)
    rw [coherent.generations, List.mem_range'_1]
    omega
  · rw [foldl_onSockets keeps.not_dial] at sockets_eq
    refine .supplied (fun k member => ?_) (fun generation posted => ?_) ?_ sockets_eq
      (outlet_move aside)
    · rw [posts_eq]
      exact coherent.supplied keeps member
    · rw [posts_eq] at posted
      obtain ⟨message, member⟩ := List.exists_mem_of_ne_nil _ posted
      have held := course.held_of_hand coherent.sound (mem_filterMap_handed.1 member)
      obtain ⟨up, rfl⟩ := coherent.sound.of_socket_eq_some held
      exact coherent.generation_mem up
    · intro k _ polled
      cases (aside.polls_eq_false _).symm.trans polled

/-- A move in which the link answers nothing and no task goes on. -/
theorem traffic_of_kept {s' : System} (silent : s.input? m = none)
    (idle : ∀ k ∈ s.sockets, m.polls k.generation = true → s.canPoll k = false)
    (queues : ∃ f, s'.sockets = s.sockets.map f ∧ ∀ k, Supplied [] k (f k))
    (outlet_eq : s'.outlet = s.outlet) : Traffic s m s' := by
  obtain ⟨f, mapped, each⟩ := queues
  refine .supplied (fun k _ => ?_) (fun generation posted => ?_) idle mapped outlet_eq
  · rw [posts_of_silent silent]
    exact each k
  · exact absurd (posts_of_silent silent generation) posted

theorem Coherent.traffic_poll (coherent : Coherent s handled arrived) (driving : s.driving = true)
    (kept : s.shutDown = false) (generation : Nat) :
    Traffic s (.act (.poll generation)) (s.move (.act (.poll generation))) := by
  have silent : s.input? (.act (.poll generation)) = none := by simp [input?]
  by_cases enabled : s.enabled (.poll generation) = true
  · have ready := enabled
    simp only [System.enabled] at ready
    cases found : s.socket? generation with
    | none => simp [found] at ready
    | some k =>
      have member : k ∈ s.sockets := List.mem_of_find?_eq_some found
      have own : k.generation = generation := by simpa using List.find?_some found
      subst own
      rw [found] at ready
      obtain ⟨f, pump, sockets_eq⟩ := pumps_pollSocket driving kept ready
      simp only [move, if_pos enabled, act, found]
      refine .pumped member (posts_of_silent silent) (fun generation => ?_) ?_ pump sockets_eq
      · by_cases own : generation = k.generation
        · subst own
          rw [if_pos rfl, coherent.exchanged_eq member, if_pos (by simp [Move.polls])]
        · rw [if_neg own]
          exact if_neg (by simpa [Move.polls] using Ne.symm own)
      · intro generation polled
        exact (eq_of_beq polled).symm
  · simp only [move, if_neg enabled]
    refine traffic_of_kept silent (fun k member polled => ?_)
      ⟨id, (List.map_id _).symm, .refl⟩ rfl
    have own : generation = k.generation := by simpa [Move.polls] using polled
    subst own
    simpa [System.enabled, coherent.socket?_eq member] using enabled

theorem traffic_attempt (driving : s.driving = true) (generation : Nat) :
    Traffic s (.act (.attempt generation)) (s.move (.act (.attempt generation))) := by
  have silent : s.input? (.act (.attempt generation)) = none := by simp [input?]
  by_cases enabled : s.enabled (.attempt generation) = true
  · have ready := enabled
    simp only [System.enabled] at ready
    cases found : s.socket? generation with
    | none => simp [found] at ready
    | some k =>
      have own : k.generation = generation := by simpa using List.find?_some found
      subst own
      rw [found] at ready
      obtain ⟨f, pump, sockets_eq⟩ := pumps_attemptSocket driving ready
      simp only [move, if_pos enabled, act, found]
      refine .pumped (List.mem_of_find?_eq_some found) (posts_of_silent silent)
        (fun generation => ?_) (by rintro _ ⟨⟩) pump sockets_eq
      rw [ite_self]
      rfl
  · simp only [move, if_neg enabled]
    exact traffic_of_kept silent (by rintro _ _ ⟨⟩) ⟨id, (List.map_id _).symm, .refl⟩ rfl

/-- **What a move does to the sockets**, before the client is shut down. -/
theorem Coherent.traffic (coherent : Coherent s handled arrived) (driving : s.driving = true)
    (kept : s.shutDown = false) (m : Move) : Traffic s m (s.move m) := by
  cases answers : s.input? m with
  | some input => exact coherent.traffic_answered answers
  | none =>
    by_cases polls : ∃ generation, m = .act (.poll generation)
    · obtain ⟨generation, rfl⟩ := polls
      exact coherent.traffic_poll driving kept generation
    by_cases attempts : ∃ generation, m = .act (.attempt generation)
    · obtain ⟨generation, rfl⟩ := attempts
      exact traffic_attempt driving generation
    have aside : m.IsAside := fun generation =>
      ⟨fun same => polls ⟨generation, same⟩, fun same => attempts ⟨generation, same⟩⟩
    refine traffic_of_kept answers (fun k _ polled => ?_)
      (exists_supplied_of_silent kept answers aside) (outlet_move aside)
    cases (aside.polls_eq_false _).symm.trans polled

end

/-! ## Runs -/

variable (config : Config) (moves : List Move)

theorem coherent_of_running (kept : (after config moves).shutDown = false) :
    Coherent (after config moves) (handled config moves) (arrived config · moves) :=
  coherent_after config moves (driving_of_running config moves kept)

theorem traffic_after (kept : (after config moves).shutDown = false) (m : Move) :
    Traffic (after config moves) m (after config (m :: moves)) :=
  (coherent_of_running config moves kept).traffic (driving_of_running config moves kept) kept m

end System
end Lookout
