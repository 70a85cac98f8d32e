import Lookout.Proofs.Link.History
import Lookout.Proofs.Link.Posting

/-!
# What becomes of messages

The ledger of a history numbers the messages that the client has sent and says of each of them where
it is: it waits, it has been handed to the socket of a generation, or it is lost, and why.  The
ledger looks at the sort of each turn only.  That a link keeps to it is a law (`accounted`): what
waits is what the ledger lets wait, what the turns hand to sockets is what the ledger says, in the
same order, and no message is in two places or in none.

## Main definitions

* `Letter`, `Loss`, `Ledger`, `Ledger.enter`.
* `Link.letters` — the messages of a history, and `Link.handedOver` what it has handed to sockets.
* `Link.ledger`, `Link.held`, `Link.gathered`.
* `Link.Excused`, `Link.Accounted`.
-/

namespace Lookout

/-- A message that the client has sent.  Its number says how many it had sent before. -/
structure Letter where
  number : Nat
  message : ControlMessage

/-- Why a message was never handed to a socket. -/
inductive Loss where
  /-- it was sent on a link that had ended and was not open -/
  | refused
  /-- too many newer messages came to wait -/
  | displaced
  /-- all that waited was given up -/
  | abandoned (cause : Abandonment)
deriving Repr, DecidableEq

/-- Where the messages are that were sent. -/
structure Ledger where
  /-- oldest first -/
  waiting : List Letter
  /-- with the generation of the socket, latest first -/
  handed : List (Letter × Nat)
  /-- latest first -/
  lost : List (Letter × Loss)

namespace Ledger

def empty : Ledger := ⟨[], [], []⟩

/-- All letters, wherever they are. -/
def letters (b : Ledger) : List Letter := b.handed.map (·.1) ++ b.waiting ++ b.lost.map (·.1)

/-- What would wait, if there were room, once one more message has come. -/
def queue (b : Ledger) (number : Nat) (message : ControlMessage) : List Letter :=
  b.waiting ++ [⟨number, message⟩]

/-- Enters a turn of some sort into a ledger.  A message that is sent in it has the given number. -/
def enter (room number : Nat) (b : Ledger) : Handling → Ledger
  | .written generation message =>
    { b with handed := (⟨number, message⟩, generation) :: b.handed }
  | .refused message => { b with lost := (⟨number, message⟩, .refused) :: b.lost }
  | .held message =>
    { b with
      waiting := (b.queue number message).rtake room
      lost := ((b.queue number message).rdrop room).reverse.map (·, .displaced) ++ b.lost }
  | .flushed generation =>
    { b with waiting := [], handed := b.waiting.reverse.map (·, generation) ++ b.handed }
  | .abandoned cause =>
    { b with waiting := [], lost := b.waiting.reverse.map (·, .abandoned cause) ++ b.lost }
  | .aside => b

variable (room number : Nat) (b : Ledger) (sort : Handling)

theorem rdrop_append_rtake (queue : List Letter) : queue.rdrop room ++ queue.rtake room = queue :=
  List.take_append_drop _ queue

/-- Entering a turn moves letters and adds the one that is sent. -/
theorem perm_enter : (b.enter room number sort).letters.Perm
    ((sort.sent?.map (Letter.mk number)).toList ++ b.letters) := by
  classical
  -- It is enough to count each letter before and after.
  rw [List.perm_iff_count]
  intro letter
  cases sort with
  | refused message =>
    simp [enter, letters, Handling.sent?, List.count_cons]
    omega
  | held message =>
    have parts := congrArg (List.count letter) (rdrop_append_rtake room (b.queue number message))
    simp [queue, enter, letters, Handling.sent?, List.count_cons, Function.comp_def] at parts ⊢
    omega
  | flushed generation =>
    simp [enter, letters, Handling.sent?, Function.comp_def]
    omega
  | abandoned cause => simp [enter, letters, Handling.sent?, Function.comp_def]
  | written | aside => rfl

theorem waiting_enter : (b.enter room number sort).waiting.map (·.message) =
    sort.waiting room (b.waiting.map (·.message)) := by
  cases sort with
  | held message => simp [enter, queue, Handling.waiting, List.rtake, List.map_drop]
  | written | refused | flushed | abandoned | aside => rfl

theorem handed_enter : (b.enter room number sort).handed.map (fun e => (e.2, e.1.message.text)) =
    (sort.handed (b.waiting.map (·.message))).reverse ++
      b.handed.map fun e => (e.2, e.1.message.text) := by
  cases sort with
  | flushed generation => simp [enter, Handling.handed, Function.comp_def]
  | written | refused | held | abandoned | aside => rfl

/-- What has been handed over stays so, and so does what is lost. -/
theorem suffix_enter : b.handed <:+ (b.enter room number sort).handed ∧
    b.lost <:+ (b.enter room number sort).lost := by
  cases sort with
  | written => exact ⟨List.suffix_cons _ _, List.suffix_rfl⟩
  | refused => exact ⟨List.suffix_rfl, List.suffix_cons _ _⟩
  | flushed => exact ⟨List.suffix_append _ _, List.suffix_rfl⟩
  | held | abandoned => exact ⟨List.suffix_rfl, List.suffix_append _ _⟩
  | aside => exact ⟨List.suffix_rfl, List.suffix_rfl⟩

end Ledger

namespace Link

/-! ## Letters -/

/-- The messages that the client has sent, latest first. -/
def letters : History → List Letter
  | [] => []
  | (_, .command (.send message)) :: past => ⟨(letters past).length, message⟩ :: letters past
  | _ :: past => letters past

/-- What a history has handed to sockets, with the generations, latest first.  Signs of life do not
count. -/
def handedOver (config : Config) : History → List (Nat × String)
  | [] => []
  | (now, input) :: past =>
    (handovers input ((after config past).step config now input)).reverse ++
      handedOver config past

/-- The ledger of a history. -/
def ledger (config : Config) : History → Ledger
  | [] => .empty
  | (now, input) :: past =>
    (ledger config past).enter (room config) (letters past).length
      ((after config past).handling config now input)

/-- The letters that have ever come to wait, latest first. -/
def held (config : Config) : History → List Letter
  | [] => []
  | (now, input) :: past =>
    match (after config past).handling config now input with
    | .held message => ⟨(letters past).length, message⟩ :: held config past
    | _ => held config past

/-- The messages that have come to wait since all that waited was last handed over or given up,
oldest first. -/
def gathered (config : Config) : History → List ControlMessage
  | [] => []
  | (now, input) :: past =>
    match (after config past).handling config now input with
    | .held message => gathered config past ++ [message]
    | .flushed _ | .abandoned _ => []
    | .written _ _ | .refused _ | .aside => gathered config past

/-- Why it is right that a letter is lost. -/
inductive Excused (config : Config) (history : History) (letter : Letter) : Loss → Prop where
  | refused {past : History} {now : Millis}
      (sent : (now, .command (.send letter.message)) :: past <:+ history)
      (number : letter.number = (letters past).length)
      (ended : (after config past).lifecycle.isTerminated = true)
      (down : (after config past).state ≠ .opened) : Excused config history letter .refused
  | displaced (waited : letter ∈ held config history)
      (newer : config.connection.maxPendingSends ≤
        (held config history).countP (letter.number < ·.number)) :
      Excused config history letter .displaced
  | abandoned {past : History} {now : Millis} {input : Input} {cause : Abandonment}
      (given : (now, input) :: past <:+ history)
      (waited : letter ∈ (ledger config past).waiting)
      (drops : (after config past).handling config now input = .abandoned cause) :
      Excused config history letter (.abandoned cause)

variable {config : Config}

/-- What the next turn does with messages. -/
theorem posting_after (past : History) (now : Millis) (input : Input) :
    Posting config now (after config past) input ((after config past).handling config now input)
      ((after config past).step config now input) :=
  posting_step (sound_after past) now input

theorem sent?_elim (cause : Option Abandonment) :
    (cause.elim Handling.aside Handling.abandoned).sent? = none := by
  cases cause <;> rfl

/-- A turn sends the message that its sort says. -/
theorem letters_cons (config : Config) (now : Millis) (input : Input) (past : History) :
    letters ((now, input) :: past) =
      (((after config past).handling config now input).sent?.map
        (Letter.mk (letters past).length)).toList ++ letters past := by
  cases input with
  | command command =>
    cases command with
    | connect url => simp only [handling, letters, sent?_elim]; rfl
    | send message =>
      simp only [handling, letters]
      split
      · rfl
      · split <;> rfl
    | close => rfl
  | transport event => simp only [handling, letters, sent?_elim]; rfl
  | timer timer =>
    cases timer with
    | sendRetry =>
      simp only [handling, letters]
      split <;> rfl
    | heartbeat | reconnect | closeGrace | metrics =>
      simp only [handling, letters, sent?_elim]; rfl

/-- Letters are numbered in the order in which they were sent. -/
theorem letters_sorted (history : History) :
    (letters history).Pairwise (fun late early => early.number < late.number) ∧
      ∀ letter ∈ letters history, letter.number < (letters history).length := by
  fun_induction letters history with
  | case1 => exact ⟨.nil, nofun⟩
  | case2 now message past ih =>
    obtain ⟨sorted, bound⟩ := ih
    refine ⟨List.pairwise_cons.2 ⟨bound, sorted⟩, fun letter member => ?_⟩
    rcases List.mem_cons.1 member with rfl | old
    · exact Nat.lt_succ_self _
    · exact Nat.lt_succ_of_lt (bound letter old)
  | case3 turn past other ih => exact ih

theorem perm_letters (config : Config) (history : History) :
    (ledger config history).letters.Perm (letters history) := by
  induction history with
  | nil => exact .nil
  | cons turn past ih =>
    obtain ⟨now, input⟩ := turn
    rw [letters_cons config]
    exact (Ledger.perm_enter ..).trans (ih.append_left _)

theorem letters_nodup (history : History) : ((letters history).map (·.number)).Nodup :=
  List.pairwise_map.2 ((letters_sorted history).1.imp Nat.ne_of_gt)

/-- What has been handed over or lost stays so, whatever comes later. -/
theorem suffix_ledger (config : Config) (later past : History) :
    (ledger config past).handed <:+ (ledger config (later ++ past)).handed ∧
      (ledger config past).lost <:+ (ledger config (later ++ past)).lost := by
  induction later with
  | nil => exact ⟨List.suffix_rfl, List.suffix_rfl⟩
  | cons turn later ih =>
    have entered := Ledger.suffix_enter (room config) (letters (later ++ past)).length
      (ledger config (later ++ past))
      ((after config (later ++ past)).handling config turn.1 turn.2)
    exact ⟨ih.1.trans entered.1, ih.2.trans entered.2⟩

/-- What waits has been sent. -/
theorem mem_letters_of_waiting {history : History} {letter : Letter}
    (member : letter ∈ (ledger config history).waiting) : letter ∈ letters history :=
  (perm_letters config history).mem_iff.1
    (List.mem_append_left _ (List.mem_append_right _ member))

theorem mem_letters_of_handed {history : History} {entry : Letter × Nat}
    (member : entry ∈ (ledger config history).handed) : entry.1 ∈ letters history :=
  (perm_letters config history).mem_iff.1
    (List.mem_append_left _ (List.mem_append_left _ (List.mem_map_of_mem member)))

theorem lt_length_of_mem {history : History} {letter : Letter} (member : letter ∈ letters history) :
    letter.number < (letters history).length := (letters_sorted history).2 letter member

/-! ## What waits -/

/-- A message that comes to wait is the latest of those that wait. -/
theorem queue_sorted {past : History}
    (sorted : (ledger config past).waiting.Pairwise (·.number < ·.number))
    (message : ControlMessage) :
    ((ledger config past).queue (letters past).length message).Pairwise
      (·.number < ·.number) := by
  refine List.pairwise_append.2 ⟨sorted, List.pairwise_singleton _ _, ?_⟩
  intro letter member new added
  rw [List.mem_singleton.1 added]
  exact lt_length_of_mem (mem_letters_of_waiting member)

/-- What waits does so in the order in which it was sent. -/
theorem waiting_sorted (history : History) :
    (ledger config history).waiting.Pairwise (·.number < ·.number) := by
  induction history with
  | nil => exact .nil
  | cons turn past ih =>
    obtain ⟨now, input⟩ := turn
    simp only [ledger]
    cases (after config past).handling config now input with
    | held message => exact (queue_sorted ih message).sublist (List.drop_sublist _ _)
    | flushed | abandoned => exact .nil
    | written | refused | aside => exact ih

/-- **What waits is what the ledger lets wait**, and there is room for it. -/
theorem waiting_eq (history : History) :
    (ledger config history).waiting.map (·.message) = (after config history).pending ∧
      (after config history).pending.length ≤ room config := by
  induction history with
  | nil => exact ⟨rfl, Nat.zero_le _⟩
  | cons turn past ih =>
    obtain ⟨now, input⟩ := turn
    obtain ⟨same, bound⟩ := ih
    have posting : Posting config now _ input _ _ := posting_after past now input
    simp only [after, ledger]
    rw [Ledger.waiting_enter, same, posting.pending_eq bound]
    refine ⟨rfl, ?_⟩
    cases (after config past).handling config now input with
    | held message =>
      simp only [Handling.waiting, List.rtake, List.length_drop]
      omega
    | flushed | abandoned => exact Nat.zero_le _
    | written | refused | aside => exact bound

/-- **What is handed to sockets is what the ledger says**, in the same order. -/
theorem handed_eq (history : History) :
    (ledger config history).handed.map (fun e => (e.2, e.1.message.text)) =
      handedOver config history := by
  induction history with
  | nil => rfl
  | cons turn past ih =>
    obtain ⟨now, input⟩ := turn
    have posting : Posting config now _ input _ _ := posting_after past now input
    simp only [handedOver, ledger]
    rw [Ledger.handed_enter, (waiting_eq past).1, ih, posting.handovers_eq]

/-- The latest messages stay the latest when one more comes. -/
theorem rtake_rtake_concat {room : Nat} (positive : 0 < room) (messages : List ControlMessage)
    (message : ControlMessage) :
    (messages.rtake room ++ [message]).rtake room = (messages ++ [message]).rtake room := by
  obtain ⟨rest, rfl⟩ := Nat.exists_eq_succ_of_ne_zero (Nat.pos_iff_ne_zero.1 positive)
  simp only [Nat.succ_eq_add_one, List.rtake_concat_succ]
  congr 1
  simp only [List.rtake, List.drop_drop, List.length_drop]
  congr 1
  omega

theorem gathered_eq (history : History) :
    (after config history).pending = (gathered config history).rtake (room config) := by
  induction history with
  | nil => exact (List.rtake_nil _).symm
  | cons turn past ih =>
    obtain ⟨now, input⟩ := turn
    have posting : Posting config now _ input _ _ := posting_after past now input
    simp only [after, gathered]
    rw [posting.pending_eq (waiting_eq past).2]
    cases (after config past).handling config now input with
    | held message =>
      simp only [Handling.waiting]
      rw [ih]
      exact rtake_rtake_concat (Nat.lt_of_lt_of_le Nat.one_pos (Nat.le_max_left _ _)) _ message
    | flushed | abandoned => exact (List.rtake_nil _).symm
    | written | refused | aside => exact ih

/-! ## What is lost -/

theorem held_suffix (turn : Millis × Input) (past : History) :
    held config past <:+ held config (turn :: past) := by
  simp only [held]
  split
  · exact List.suffix_cons _ _
  · exact List.suffix_rfl

/-- What waits is the latest of all that has come to wait. -/
theorem waiting_latest (history : History) :
    (ledger config history).waiting.reverse <+: held config history := by
  induction history with
  | nil => exact List.prefix_rfl
  | cons turn past ih =>
    obtain ⟨now, input⟩ := turn
    simp only [held, ledger]
    cases (after config past).handling config now input with
    | held message =>
      simp only [Ledger.enter, List.rtake]
      rw [List.reverse_drop]
      refine (List.take_prefix _ _).trans ?_
      rw [Ledger.queue, List.reverse_append]
      exact (List.prefix_cons_inj _).2 ih
    | flushed | abandoned => exact List.nil_prefix
    | written | refused | aside => exact ih

/-- What is excused stays so. -/
theorem Excused.cons {history : History} {letter : Letter} {loss : Loss}
    (excused : Excused config history letter loss) (turn : Millis × Input) :
    Excused config (turn :: history) letter loss := by
  cases excused with
  | refused sent number ended down =>
    exact .refused (sent.trans (List.suffix_cons _ _)) number ended down
  | displaced waited newer =>
    have grown : held config history <:+ held config (turn :: history) := held_suffix turn history
    exact .displaced (grown.mem waited) (newer.trans grown.sublist.countP_le)
  | abandoned given waited drops =>
    exact .abandoned (given.trans (List.suffix_cons _ _)) waited drops

/-- A letter that is displaced has waited, and makes room for as many newer ones as can wait. -/
theorem excused_displaced {past : History} {now : Millis} {input : Input}
    {message : ControlMessage} {letter : Letter}
    (holds : (after config past).handling config now input = .held message)
    (displaced : letter ∈
      ((ledger config past).queue (letters past).length message).rdrop (room config)) :
    Excused config ((now, input) :: past) letter .displaced := by
  have sorted : ((ledger config past).queue (letters past).length message).Pairwise
      (·.number < ·.number) := queue_sorted (waiting_sorted past) message
  have all : ((ledger config past).queue (letters past).length message).reverse <+:
      held config ((now, input) :: past) := by
    simp only [held, holds, Ledger.queue, List.reverse_append]
    exact (List.prefix_cons_inj _).2 (waiting_latest past)
  generalize (ledger config past).queue (letters past).length message = queue
    at displaced sorted all
  have newer : ∀ later ∈ queue.rtake (room config), letter.number < later.number := by
    rw [← Ledger.rdrop_append_rtake (room config) queue, List.pairwise_append] at sorted
    exact sorted.2.2 letter displaced
  have full : room config ≤ (queue.rtake (room config)).length := by
    have := List.length_pos_of_mem displaced
    simp only [List.rtake, List.rdrop, List.length_take, List.length_drop] at this ⊢
    omega
  refine .displaced (all.mem (List.mem_reverse.2 (List.mem_of_mem_take displaced))) ?_
  calc config.connection.maxPendingSends ≤ room config := Nat.le_max_right _ _
    _ ≤ (queue.rtake (room config)).length := full
    _ = (queue.rtake (room config)).countP (letter.number < ·.number) := by
      rw [eq_comm, List.countP_eq_length]
      simpa using newer
    _ ≤ queue.countP (letter.number < ·.number) := (List.drop_sublist _ _).countP_le
    _ = queue.reverse.countP (letter.number < ·.number) := (List.countP_reverse ..).symm
    _ ≤ (held config ((now, input) :: past)).countP (letter.number < ·.number) :=
      all.sublist.countP_le

theorem excused_lost (history : History) : ∀ letter loss,
    (letter, loss) ∈ (ledger config history).lost → Excused config history letter loss := by
  induction history with
  | nil => exact nofun
  | cons turn past ih =>
    obtain ⟨now, input⟩ := turn
    intro letter loss member
    have posting : Posting config now _ input _ _ := posting_after past now input
    simp only [ledger] at member
    generalize sorted : (after config past).handling config now input = sort at member posting
    generalize (after config past).step config now input = turn at posting
    cases posting with
    | written | flushed | retried | spared => exact (ih letter loss member).cons _
    | refused sends down ended =>
      rcases List.mem_cons.1 member with new | old
      · cases new
        cases sends
        exact .refused List.suffix_rfl rfl ended down
      · exact (ih letter loss old).cons _
    | held sends down free =>
      rcases List.mem_append.1 member with new | old
      · obtain ⟨_, displaced, same⟩ := List.mem_map.1 new
        cases same
        exact excused_displaced sorted (List.mem_reverse.1 displaced)
      · exact (ih letter loss old).cons _
    | abandoned =>
      rcases List.mem_append.1 member with new | old
      · obtain ⟨_, waited, same⟩ := List.mem_map.1 new
        cases same
        exact .abandoned List.suffix_rfl (List.mem_reverse.1 waited) sorted
      · exact (ih letter loss old).cons _

/-! ## Accounts -/

/-- No message of a history is in two places or in none, and what is said of where it is is true. -/
structure Accounted (config : Config) (history : History) : Prop where
  /-- every message is in one place, and there once -/
  places : (ledger config history).letters.Perm (letters history)
  numbered : ((letters history).map (·.number)).Nodup
  /-- what waits is what the link lets wait -/
  waiting : (ledger config history).waiting.map (·.message) = (after config history).pending
  /-- what has been handed over is what the turns have handed to sockets -/
  handed : (ledger config history).handed.map (fun e => (e.2, e.1.message.text)) =
    handedOver config history
  /-- and they do so only on an open link -/
  opened : ∀ now input generation text,
    .hand generation (.text text) ∈ ((after config history).step config now input).effects →
    (after config history).state = .opened ∧ (after config history).socket = some generation
  /-- what is lost is so for a reason -/
  lost : ∀ letter loss, (letter, loss) ∈ (ledger config history).lost →
    Excused config history letter loss
  /-- a message that has been handed over or lost stays where it is, whatever comes later -/
  settled : ∀ later, (ledger config history).handed <:+ (ledger config (later ++ history)).handed ∧
    (ledger config history).lost <:+ (ledger config (later ++ history)).lost
  /-- not too many messages wait -/
  length_le : (after config history).pending.length ≤ config.connection.maxPendingSends
  /-- and they are the latest of those that have come to wait -/
  latest : (after config history).pending =
    (gathered config history).rtake config.connection.maxPendingSends

theorem accounted (positive : 0 < config.connection.maxPendingSends) (history : History) :
    Accounted config history := by
  have room_eq : room config = config.connection.maxPendingSends := Nat.max_eq_right positive
  refine ⟨perm_letters config history, letters_nodup history, (waiting_eq history).1,
    handed_eq history, ?_, excused_lost history, fun later => suffix_ledger config later history,
    ?_, ?_⟩
  · intro now input generation text handed
    exact (course_after history now input).opened_of_hand handed
  · rw [← room_eq]
    exact (waiting_eq history).2
  · rw [← room_eq]
    exact gathered_eq history

end Link
end Lookout
