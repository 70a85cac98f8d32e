import Mathlib.Data.List.Nodup
import Lookout.Proofs.Link.Ledger

/-!
# Messages of a link that has ended

Messages that wait are given up when the user ends the link and when its attempts are used up.  A
link that another console has taken over keeps its socket until that ends, and what waits on it is
neither given up nor refused in the meantime: the retry timer may still hand it over
(`superseded_still_waits`).  But nothing more comes to wait, and when the socket has ended, nothing
waits (`abandonment_law`).

## Main definitions

* `Settled` — what waits, and its timer, on a link that has ended.
-/

namespace Lookout
namespace Link

variable {config : Config} {now : Millis} {l : Link} {input : Input} {turn : Turn}
  {sort : Handling}

/-- The retry timer runs for messages that wait, and none wait on a link that has ended and holds no
socket. -/
structure Settled (l : Link) : Prop where
  unarmed : l.pending = [] → l.sendRetry = none
  dropped : l.lifecycle.isTerminated = true → l.state = .disconnected → l.pending = []

theorem settled_new (config : Config) : Settled (new config) := ⟨fun _ => rfl, fun _ _ => rfl⟩

/-- The retry timer stays off while nothing waits. -/
theorem Posting.unarmed (posting : Posting config now l input sort turn)
    (unarmed : l.pending = [] → l.sendRetry = none) :
    turn.link.pending = [] → turn.link.sendRetry = none := by
  cases posting with
  | written | refused => exact unarmed
  | held =>
    intro nothing
    simp [Link.idle, hold] at nothing
  | flushed => exact fun _ => rfl
  | retried fires down rearmed =>
    intro nothing
    rw [← Option.not_isSome_iff_eq_none]
    exact fun armed => (rearmed.1 armed).1 nothing
  | abandoned dropped off => exact fun _ => off
  | spared kept retry =>
    intro nothing
    rw [kept] at nothing
    rcases retry with same | ⟨-, waits⟩
    · rw [same]
      exact unarmed nothing
    · exact absurd nothing waits

/-- No message comes to wait on a link that has ended. -/
theorem Posting.pending_of_isTerminated (posting : Posting config now l input sort turn)
    (ended : l.lifecycle.isTerminated = true) :
    turn.link.pending = l.pending ∨ turn.link.pending = [] := by
  cases posting with
  | held sends down free => cases ended.symm.trans free
  | flushed => exact .inr rfl
  | abandoned dropped => exact .inr dropped
  | spared kept => exact .inl kept
  | written | refused | retried => exact .inl rfl

/-- A turn that leaves the life of a link alone lets nothing wait where nothing may. -/
theorem Settled.dropped_of_same (settled : Settled l)
    (posting : Posting config now l input sort turn) (same : turn.link.lifecycle = l.lifecycle)
    (ended : turn.link.lifecycle.isTerminated = true) (down : turn.link.state = .disconnected) :
    turn.link.pending = [] := by
  rw [state, same] at down
  rw [same] at ended
  rcases posting.pending_of_isTerminated ended with kept | dropped
  · rw [kept]
    exact settled.dropped ended down
  · exact dropped

/-- **What waits is given up when the socket of a link that has ended is gone.** -/
theorem Settled.step (settled : Settled l) (posting : Posting config now l input sort turn)
    (course : Course config now l input turn) : Settled turn.link := by
  refine ⟨posting.unarmed settled.unarmed, fun ended down => ?_⟩
  cases course with
  | steady minor same => exact settled.dropped_of_same posting same.lifecycle ended down
  | heard => exact settled.dropped_of_same posting rfl ended down
  | dialed | opened | announced => cases down
  | superseded current => exact absurd down (isCurrent_iff.1 current).2
  | abandoned => rfl
  | closed up ending => exact (ending.pending_eq_nil rfl rfl).1
  | ended cause up ending =>
    cases ending with
    | retried free => simp [letGo, Lifecycle.isTerminated, free] at ended
    | lost | stopped | idle => rfl

theorem settled_after (history : History) : Settled (after config history) := by
  induction history with
  | nil => exact settled_new config
  | cons turn past ih =>
    obtain ⟨now, input⟩ := turn
    exact ih.step (posting_after past now input) (course_after past now input)

/-! ## What is handed over later -/

/-- No two places of a ledger hold the same letter. -/
theorem ledger_nodup (config : Config) (history : History) :
    ((ledger config history).letters.map (·.number)).Nodup := by
  rw [((perm_letters config history).map _).nodup_iff]
  exact letters_nodup history

/-- A message that does not wait is not handed over any more. -/
theorem handed_of_not_waiting {past : History} {letter : Letter} (sent : letter ∈ letters past)
    (waits : letter ∉ (ledger config past).waiting) {later : History} {generation : Nat}
    (handed : (letter, generation) ∈ (ledger config (later ++ past)).handed) :
    (letter, generation) ∈ (ledger config past).handed := by
  obtain ⟨handedKept, lostKept⟩ := suffix_ledger config later past
  have nodup := ledger_nodup config (later ++ past)
  rw [Ledger.letters, List.append_assoc, List.map_append, List.map_map] at nodup
  obtain ⟨once, -, apart⟩ := List.nodup_append.1 nodup
  rcases List.mem_append.1 ((perm_letters config past).mem_iff.2 sent) with place | lost
  · rcases List.mem_append.1 place with before | waiting
    · obtain ⟨entry, member, rfl⟩ := List.mem_map.1 before
      have same := List.inj_on_of_nodup_map once (handedKept.mem member) handed rfl
      rwa [← same]
    · exact absurd waiting waits
  · obtain ⟨entry, member, rfl⟩ := List.mem_map.1 lost
    refine absurd rfl (apart _ (List.mem_map_of_mem handed) _ ?_)
    exact List.mem_map_of_mem
      (List.mem_append_right _ (List.mem_map_of_mem (lostKept.mem member)))

/-- **Which messages a link that has ended still hands over.**  Where nothing waits, the retry timer
is off.  On a link that has ended nothing waits once its socket is gone, as it is whenever the user
has ended it or its attempts are used up; then no message that was sent before is handed over any
more.  A link that another console has taken over keeps what waits until its socket ends or the
retry timer fires, but nothing more comes to wait. -/
theorem abandonment_law (config : Config) (history : History) :
    let l := after config history
    (l.pending = [] → l.sendRetry = none) ∧
    (l.lifecycle.isTerminated = true →
      l.state = .disconnected ∨ l.lifecycle.termination ≠ some .superseded →
      l.pending = [] ∧ l.sendRetry = none ∧
      ∀ later, ∀ letter ∈ letters history, ∀ generation,
        (letter, generation) ∈ (ledger config (later ++ history)).handed →
        (letter, generation) ∈ (ledger config history).handed) ∧
    (l.lifecycle.isTerminated = true → ∀ now input,
      (l.step config now input).link.pending = l.pending ∨
      (l.step config now input).link.pending = []) := by
  intro l
  have settled : Settled l := settled_after history
  refine ⟨settled.unarmed, fun ended gone => ?_, fun ended now input => ?_⟩
  · have down : l.state = .disconnected := by
      rcases gone with down | other
      · exact down
      · by_contra up
        rcases (sound_after history).termination_eq up with free | superseded
        · simp [Lifecycle.isTerminated, l, free] at ended
        · exact other superseded
    have nothing : l.pending = [] := settled.dropped ended down
    refine ⟨nothing, settled.unarmed nothing, fun later letter sent generation => ?_⟩
    have waiting : (ledger config history).waiting = [] := by
      rw [← List.map_eq_nil_iff, (waiting_eq history).1]
      exact nothing
    exact handed_of_not_waiting sent (by simp [waiting])
  · exact (posting_after history now input).pending_of_isTerminated ended

/-- Another console takes over right after the link has opened, while an order waits. -/
def ousted : History :=
  [(0, .transport (.message 1 (.text "\x7b\"kind\":99\x7d"))), (0, .transport (.connected 1)),
    (0, .command (.connect "ws://device")), (0, .command (.send (.request .startStream none)))]

/-- The order waits on a link that has ended, and is handed over when the retry timer fires. -/
theorem superseded_still_waits :
    ¬ ((after {} ousted).lifecycle.isTerminated = true →
      (after {} ousted).pending = [] ∧ (after {} ousted).sendRetry = none) ∧
    handedOver {} ousted = [] ∧
    handedOver {} ((200, .timer .sendRetry) :: ousted) =
      [(1, (ControlMessage.request .startStream none).text)] := by
  decide +kernel

end Link
end Lookout
