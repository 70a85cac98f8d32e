import Lookout.Proofs.Config.Validity
import Lookout.Proofs.Link.Ledger
import Lookout.Proofs.System.Sockets

/-!
# Where messages go

The ledger of a link says of every message whether it waits, has been handed to the socket of a
generation, or is lost.  On a run of the console there is exactly one socket of that generation when
a message is handed to it, and the message then comes last in the queue of that socket, unless the
task of the socket has ended (`messages_law`).

## Main definitions

* `Effect.handed?` — what an effect queues for a socket.
* `Queued`, `Delivered` — what the effects of a turn do to the queues of the sockets.
-/

namespace Lookout

/-- What an effect queues for the socket of a generation. -/
def Effect.handed? (generation : Nat) : Effect → Option WireMessage
  | .hand other message => if other = generation then some message else none
  | _ => none

namespace System

/-! ## The queues of the sockets -/

variable {s s' : System} {effects : List Effect}

/-- A socket after some effects, with its queue. -/
structure Queued (effects : List Effect) (k k' : Socket) : Prop where
  generation_eq : k'.generation = k.generation
  phase_eq : k'.phase = k.phase
  outbound_eq : k'.outbound =
    k.outbound ++ if k.phase = .ended then [] else effects.filterMap (Effect.handed? k.generation)

theorem Queued.of_kept {k k' : Socket} (generation : k'.generation = k.generation)
    (phase : k'.phase = k.phase) (outbound : k'.outbound = k.outbound)
    (none : effects.filterMap (Effect.handed? k.generation) = []) : Queued effects k k' :=
  ⟨generation, phase, by rw [outbound, none, ite_self, List.append_nil]⟩

theorem Queued.trans {later : List Effect} {k k' k'' : Socket} (first : Queued effects k k')
    (second : Queued later k' k'') : Queued (effects ++ later) k k'' where
  generation_eq := second.generation_eq.trans first.generation_eq
  phase_eq := second.phase_eq.trans first.phase_eq
  outbound_eq := by
    rw [second.outbound_eq, first.outbound_eq, first.generation_eq, first.phase_eq,
      List.filterMap_append]
    split <;> simp

/-- An effect keeps every socket, and queues for it what is meant for it. -/
theorem exists_queued_of_effect (effect : Effect) {sockets : List Socket} {k : Socket}
    (member : k ∈ sockets) :
    ∃ k' ∈ Effect.onSockets sockets effect, Queued [effect] k k' := by
  cases effect with
  | dial generation url =>
    exact ⟨k, List.mem_append_left _ member, .of_kept rfl rfl rfl rfl⟩
  | hand generation message =>
    refine ⟨_, List.mem_map_of_mem member, ?_⟩
    by_cases own : k.generation = generation
    · subst own
      rw [if_pos (beq_self_eq_true _)]
      by_cases ended : k.phase = .ended
      · rw [Socket.enqueue, if_pos ended]
        exact ⟨rfl, rfl, by rw [if_pos ended, List.append_nil]⟩
      · rw [Socket.enqueue, if_neg ended]
        exact ⟨rfl, rfl, by simp [Effect.handed?, ended]⟩
    · rw [if_neg (by simpa using own)]
      exact .of_kept rfl rfl rfl (by simp [Effect.handed?, Ne.symm own])
  | release generation =>
    refine ⟨_, List.mem_map_of_mem member, ?_⟩
    split
    · exact .of_kept rfl rfl rfl rfl
    · exact .of_kept rfl rfl rfl rfl
  | notify | endStreams | queueResult | deliver | reportStreams =>
    exact ⟨k, member, .of_kept rfl rfl rfl rfl⟩

theorem exists_queued (effects : List Effect) {sockets : List Socket} {k : Socket}
    (member : k ∈ sockets) :
    ∃ k' ∈ effects.foldl Effect.onSockets sockets, Queued effects k k' := by
  induction effects generalizing sockets k with
  | nil => exact ⟨k, member, .of_kept rfl rfl rfl rfl⟩
  | cons effect effects ih =>
    obtain ⟨k', member', first⟩ := exists_queued_of_effect effect member
    obtain ⟨k'', member'', second⟩ := ih member'
    exact ⟨k'', member'', first.trans second⟩

/-! ## Turns -/

/-- What the effects of a turn do to the queues of the sockets. -/
structure Delivered (s : System) (effects : List Effect) (s' : System) : Prop where
  /-- a text is handed to exactly one socket -/
  addressed : ∀ generation text, .hand generation (.text text) ∈ effects →
    (s.sockets.map (·.generation)).count generation = 1
  /-- and comes last in its queue, unless its task has ended -/
  queued : ∀ k ∈ s.sockets, ∃ k' ∈ s'.sockets, Queued effects k k'
  /-- and there is no other socket with that generation -/
  numbered : (s'.sockets.map (·.generation)).Nodup

theorem Stride.queued {input : Input} {arrival : Option (Nat × Arrival)}
    (stride : Stride s (some input) arrival s') {k : Socket} (member : k ∈ s.sockets) :
    ∃ k' ∈ s'.sockets, Queued (s.link.step s.config s.now input).effects k k' := by
  cases stride with
  | answered driving taken done =>
    rw [done.sockets_eq]
    exact exists_queued _ member

variable (config : Config) (moves : List Move)

/-- **What a turn hands over reaches the queue of its socket.** -/
theorem delivered_move {m : Move} {input : Input}
    (answers : (after config moves).input? m = some input) :
    Delivered (after config moves)
      ((Link.after config (inputs config moves)).step config (after config moves).now
        input).effects
      (after config (m :: moves)) := by
  have stride := stride_move (after config moves) m
  rw [answers] at stride
  obtain ⟨driving, goes_on⟩ := stride.driving_of_answered
  have coherent := coherent_after config moves driving
  have sound : Link.Sound config (after config moves).link := by
    have sound := coherent.sound
    rwa [config_after] at sound
  rw [← link_after config moves driving]
  refine ⟨fun generation text handed => ?_, fun k member => ?_, ?_⟩
  · have course : Link.Course config (after config moves).now _ input _ :=
      Link.course_step sound _ input
    obtain ⟨opened, held⟩ := course.opened_of_hand handed
    have up : (after config moves).link.state ≠ .disconnected := by simp [opened]
    rw [sound.socket_eq_some up] at held
    cases held
    exact List.count_eq_one_of_mem coherent.nodup_generations (coherent.generation_mem up)
  · have queued := stride.queued member
    rwa [config_after] at queued
  · exact (coherent_after config (m :: moves) goes_on).nodup_generations

/-- **What becomes of the messages that are sent**, if at least one can wait, as it can in every
configuration that is accepted (`Config.Accepted.maxPendingSends_pos`).  At every moment each of
them waits, has been handed over once, or is lost for a reason; the latest ones wait, not too many
of them.  When a message is handed over, there is exactly one socket that it is for, and it comes
last in the queue of that socket, unless the task of the socket has ended. -/
theorem messages_law (positive : 0 < config.connection.maxPendingSends) :
    (∀ history, Link.Accounted config history) ∧
    ∀ moves, let s := after config moves
      let history := inputs config moves
      (s.driving = true → s.link = Link.after config history) ∧
      ∀ m input, s.input? m = some input →
        inputs config (m :: moves) = (s.now, input) :: history ∧
        Delivered s ((Link.after config history).step config s.now input).effects (s.move m) := by
  refine ⟨Link.accounted positive, fun moves => ⟨link_after config moves, ?_⟩⟩
  intro m input answers
  refine ⟨?_, delivered_move config moves answers⟩
  simp [inputs, answers]

/-- Only one message can wait. -/
def narrow : Config := { connection := { maxPendingSends := 1 } }

/-- Five messages: the second one displaces the first and is handed over by the retry timer, the
third one is sent on the open link, the fourth one on a link that the user has closed, and the last
one waits when the user closes the link again. -/
def crowded : Link.History :=
  [(300, .command .close), (300, .command (.send (.request .saveConfigs none))),
    (300, .command (.connect "ws://device")), (300, .command (.send (.request .stopStream none))),
    (300, .command .close), (200, .command (.send (.request .startStream none))),
    (200, .timer .sendRetry), (0, .transport (.connected 1)),
    (0, .command (.connect "ws://device")), (0, .command (.send (.request .snapshot none))),
    (0, .command (.send (.request .getConfig none)))]

/-- The socket is connected, and an order to start streams waits to be taken up. -/
def busy : List Move :=
  [.send (.request .startStream none), .act .transport, .act (.poll 1), .act (.poll 1),
    .act .command, .connect "ws://device"]

theorem messages_law_crowded :
    0 < narrow.connection.maxPendingSends ∧
    Link.Accounted narrow crowded ∧
    (Link.ledger narrow crowded).handed.map (fun e => (e.1.number, e.2)) = [(2, 1), (1, 1)] ∧
    (Link.ledger narrow crowded).lost.map (fun e => (e.1.number, e.2)) =
      [(4, .abandoned .userClosed), (3, .refused), (0, .displaced)] ∧
    Delivered (after narrow busy)
      ((Link.after narrow (inputs narrow busy)).step narrow (after narrow busy).now
        (.command (.send (.request .startStream none)))).effects
      (after narrow (.act .command :: busy)) ∧
    (after narrow busy).sockets.map (·.outbound.length) = [0] ∧
    (after narrow (.act .command :: busy)).sockets.map (·.outbound.length) = [1] := by
  have positive : 0 < narrow.connection.maxPendingSends := by decide
  have answers : (after narrow busy).input? (.act .command) =
      some (.command (.send (.request .startStream none))) := by with_unfolding_all rfl
  obtain ⟨accounted, delivered⟩ := messages_law narrow positive
  exact ⟨positive, accounted crowded, by decide +kernel, by decide +kernel,
    ((delivered busy).2 _ _ answers).2, by decide +kernel, by decide +kernel⟩

end System

end Lookout
