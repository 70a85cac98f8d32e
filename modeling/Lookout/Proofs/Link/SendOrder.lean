import Lookout.Proofs.Link.Ledger

/-!
# The order in which messages are handed over

A message that is sent on an open link is handed over at once, and one that waits is handed over
when the retry timer fires.  So a link that has just opened may hand over a message before the ones
that it still lets wait (`stop_overtakes_start`).  This is the only way in which messages change places
(`order_law`): those that have waited keep their order, and so do those that have not.

## Main definitions

* `Overtakes` — how a message comes to be handed over before one that was sent earlier.
-/

namespace Lookout
namespace Link

/-- A letter was sent on an open link while another one, sent before, was waiting. -/
def Overtakes (config : Config) (history : History) (fast slow : Letter) : Prop :=
  ∃ now past, (now, .command (.send fast.message)) :: past <:+ history ∧
    fast.number = (letters past).length ∧ (after config past).state = .opened ∧
    slow ∈ (ledger config past).waiting

variable {config : Config} {history : History} {fast slow : Letter}

theorem Overtakes.cons (overtakes : Overtakes config history fast slow)
    (turn : Millis × Input) : Overtakes config (turn :: history) fast slow := by
  obtain ⟨now, past, sent, number, up, waited⟩ := overtakes
  exact ⟨now, past, sent.trans (List.suffix_cons _ _), number, up, waited⟩

/-- Only what was sent earlier is overtaken. -/
theorem Overtakes.lt (overtakes : Overtakes config history fast slow) :
    slow.number < fast.number := by
  obtain ⟨now, past, -, number, -, waited⟩ := overtakes
  rw [number]
  exact lt_length_of_mem (mem_letters_of_waiting waited)

/-- What waits was sent after all that has been handed over, unless it has been overtaken. -/
theorem lt_waiting (history : History) :
    ∀ slow ∈ (ledger config history).waiting, ∀ entry ∈ (ledger config history).handed,
      entry.1.number < slow.number ∨ Overtakes config history entry.1 slow := by
  induction history with
  | nil => exact nofun
  | cons turn past ih =>
    obtain ⟨now, input⟩ := turn
    have older {slow : Letter} (waits : slow ∈ (ledger config past).waiting) {entry : Letter × Nat}
        (member : entry ∈ (ledger config past).handed) :
        entry.1.number < slow.number ∨ Overtakes config ((now, input) :: past) entry.1 slow :=
      (ih slow waits entry member).imp_right (·.cons _)
    have posting : Posting config now _ input _ _ := posting_after past now input
    intro slow waits entry member
    simp only [ledger] at waits member
    generalize (after config past).handling config now input = sort at waits member posting
    generalize (after config past).step config now input = turn at posting
    cases posting with
    | written sends up =>
      rcases List.mem_cons.1 member with rfl | member
      · cases sends
        exact .inr ⟨now, past, List.suffix_rfl, rfl, up, waits⟩
      · exact older waits member
    | held sends down free =>
      rcases List.mem_append.1 (List.mem_of_mem_drop waits) with waits | new
      · exact older waits member
      · rw [List.mem_singleton.1 new]
        exact .inl (lt_length_of_mem (mem_letters_of_handed member))
    | flushed | abandoned => cases waits
    | refused | retried | spared => exact older waits member

/-- **Messages are handed over in the order in which they were sent**, unless one overtakes
another. -/
theorem handed_ordered (history : History) :
    (ledger config history).handed.Pairwise fun late early =>
      early.1.number < late.1.number ∨ Overtakes config history early.1 late.1 := by
  induction history with
  | nil => exact .nil
  | cons turn past ih =>
    obtain ⟨now, input⟩ := turn
    have ordered : (ledger config past).handed.Pairwise fun late early =>
        early.1.number < late.1.number ∨ Overtakes config ((now, input) :: past) early.1 late.1 :=
      ih.imp fun order => order.imp_right (·.cons _)
    simp only [ledger]
    cases (after config past).handling config now input with
    | written generation message =>
      refine List.pairwise_cons.2 ⟨fun entry member => ?_, ordered⟩
      exact .inl (lt_length_of_mem (mem_letters_of_handed member))
    | flushed generation =>
      refine List.pairwise_append.2 ⟨?_, ordered, ?_⟩
      · rw [List.pairwise_map, List.pairwise_reverse]
        exact (waiting_sorted past).imp .inl
      · intro late waited early member
        obtain ⟨slow, waits, rfl⟩ := List.mem_map.1 waited
        exact (lt_waiting past slow (List.mem_reverse.1 waits) early member).imp_right (·.cons _)
    | refused | held | abandoned | aside => exact ordered

/-- **In which order messages are handed over.**  What is handed to sockets are messages that were
sent, each of them once at most.  Of two messages the one that was sent earlier is handed over
earlier, unless the other one was sent on an open link while it was waiting. -/
theorem order_law (config : Config) (history : History) :
    let handed := (ledger config history).handed
    handed.map (fun entry => (entry.2, entry.1.message.text)) = handedOver config history ∧
    (∀ entry ∈ handed, entry.1 ∈ letters history) ∧
    (handed.map (·.1.number)).Nodup ∧
    handed.Pairwise fun late early =>
      early.1.number < late.1.number ∨ Overtakes config history early.1 late.1 := by
  intro handed
  have ordered : handed.Pairwise fun late early =>
      early.1.number < late.1.number ∨ Overtakes config history early.1 late.1 :=
    handed_ordered history
  refine ⟨handed_eq history, fun entry => mem_letters_of_handed, ?_, ordered⟩
  rw [List.Nodup, List.pairwise_map]
  refine ordered.imp fun order => ?_
  rcases order with sooner | overtakes
  · exact Nat.ne_of_gt sooner
  · exact Nat.ne_of_lt overtakes.lt

/-- Streams are ordered before the link is open, and stopped while the order still waits. -/
def hasty : History :=
  [(200, .timer .sendRetry), (0, .command (.send (.request .stopStream none))),
    (0, .transport (.connected 1)), (0, .command (.connect "ws://device")),
    (0, .command (.send (.request .startStream none)))]

/-- The order to stop is handed over before the order to start. -/
theorem stop_overtakes_start :
    ¬ ((handedOver {} hasty).reverse.map (·.2)).Sublist
      ((letters hasty).reverse.map (·.message.text)) := by
  decide +kernel

end Link
end Lookout
