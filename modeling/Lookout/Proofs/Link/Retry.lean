import Lookout.Proofs.Link.Abandoned
import Lookout.Proofs.Link.Reconnect

/-!
# When messages that wait are tried again

Messages that wait are tried again when the retry timer fires.  There is one corner in which it is
not armed: it fires on a link that is down, with no attempt scheduled, and the messages are parked.
Such a link has not opened, or not since another console took over, and has not ended, so that only
an order to connect lets it go on.  If the attempt fails the messages are given up, and if it
succeeds the timer is armed again.  So no message waits on an open link, on one that is closing or
on one that is to be tried again without a timer that will hand it over (`retry_law`).

## Main definitions

* `IsParked`, `IsMinded` — a link whose messages may be parked, and what holds of those that wait.
-/

namespace Lookout
namespace Link

/-- A link on which messages may be parked: it is down or connecting, and has not opened, or not
since another console took over. -/
structure IsParked (l : Link) : Prop where
  ineligible : l.lifecycle.autoReconnect = false
  early : l.state = .disconnected ∨ l.state = .connecting

/-- What waits is tried again when a timer fires, or it is parked. -/
def IsMinded (l : Link) : Prop := l.pending ≠ [] → l.sendRetry.isSome ∨ l.IsParked

variable {config : Config} {now : Millis} {l : Link} {input : Input} {turn : Turn}
  {sort : Handling}

theorem IsParked.not_opened (parked : l.IsParked) : l.state ≠ .opened := by
  rcases parked.early with down | connecting
  · simp [down]
  · simp [connecting]

/-- A link opens when its attempt succeeds, and in no other turn. -/
theorem Course.eq_connected_of_opens (course : Course config now l input turn)
    (down : l.state ≠ .opened) (opens : turn.link.state = .opened) :
    l.state = .connecting ∧ input = .transport (.connected l.lifecycle.generation) := by
  cases course with
  | steady minor same =>
    exact absurd ((congrArg Lifecycle.state same.lifecycle).symm.trans opens) down
  | heard | superseded | abandoned => exact absurd opens down
  | opened connecting => exact ⟨connecting, rfl⟩
  | dialed | announced => cases opens
  | closed up ending => cases ending.state_eq.symm.trans opens
  | ended cause up ending => cases ending.state_eq.symm.trans opens

/-- The timer is armed for what waits when a link opens. -/
theorem armed_of_opens (sound : Sound config l) (down : l.state ≠ .opened)
    (opens : (l.step config now input).link.state = .opened) (waits : l.pending ≠ []) :
    (l.step config now input).link.sendRetry.isSome ∧
      (l.step config now input).link.pending = l.pending := by
  obtain ⟨connecting, rfl⟩ := (course_step sound now input).eq_connected_of_opens down opens
  simp [step, connected, Lifecycle.opened, connecting, waits, armSendRetry, publish, Link.idle,
    Turn.notify, Turn.also]

/-- Messages are parked until the link opens. -/
theorem IsParked.of_course (parked : l.IsParked) (course : Course config now l input turn) :
    turn.link.IsParked ∨ l.state ≠ .opened ∧ turn.link.state = .opened := by
  cases course with
  | steady minor same =>
    exact .inl ⟨(congrArg Lifecycle.autoReconnect same.lifecycle).trans parked.ineligible, by
      rw [state, same.lifecycle]; exact parked.early⟩
  | heard => exact .inl ⟨parked.ineligible, parked.early⟩
  | dialed => exact .inl ⟨parked.ineligible, .inr rfl⟩
  | opened => exact .inr ⟨parked.not_opened, rfl⟩
  | announced current up => exact absurd up parked.not_opened
  | superseded => exact .inl ⟨rfl, parked.early⟩
  | abandoned => exact .inl ⟨parked.ineligible, parked.early⟩
  | closed up ending =>
    exact .inl ⟨ending.autoReconnect_eq.trans parked.ineligible, .inl ending.state_eq⟩
  | ended cause up ending =>
    exact .inl ⟨ending.autoReconnect_eq.trans parked.ineligible, .inl ending.state_eq⟩

/-- A link with messages that wait, which is down and has no attempt scheduled, is one on which they
may be parked: on any other an attempt is scheduled, or it has ended and nothing waits. -/
theorem Sound.isParked (sound : Sound config l) (settled : Settled l) (waits : l.pending ≠ [])
    (down : l.state = .disconnected) (idle : l.reconnect = none) : l.IsParked := by
  have free : l.lifecycle.termination = none := by
    rw [← Option.not_isSome_iff_eq_none]
    exact fun ended => waits (settled.dropped ended down)
  refine ⟨?_, .inl down⟩
  rw [← Bool.not_eq_true]
  intro eligible
  have armed := sound.reconnect_iff.2 ⟨down, free, eligible⟩
  rw [idle] at armed
  cases armed

/-- **What waits goes on being minded**, whatever the link has to answer. -/
theorem IsMinded.step (minded : l.IsMinded) (sound : Sound config l) (settled : Settled l) :
    (l.step config now input).link.IsMinded := by
  have posting := posting_step sound now input
  have course := course_step sound now input
  have arms : l.state ≠ .opened → (l.step config now input).link.state = .opened →
      l.pending ≠ [] → (l.step config now input).link.sendRetry.isSome :=
    fun down opens waits => (armed_of_opens sound down opens waits).1
  generalize l.handling config now input = sort at posting
  generalize l.step config now input = turn at posting course arms
  intro waits
  cases posting with
  | written | refused => exact minded waits
  | held => exact .inl rfl
  | flushed => exact absurd rfl waits
  | @retried retry fires down rearmed =>
    cases retry with
    | some due => exact .inl rfl
    | none =>
      -- The timer is off now, so the link is down and no attempt is scheduled.
      have off : ¬ (l.state ≠ .disconnected ∨ l.reconnect.isSome) :=
        fun tries => absurd (rearmed.2 ⟨waits, tries⟩) (by simp)
      rw [not_or, not_not, Option.not_isSome_iff_eq_none] at off
      have parked := sound.isParked settled waits off.1 off.2
      exact .inr ⟨parked.ineligible, parked.early⟩
  | abandoned dropped => exact absurd dropped waits
  | spared kept retry =>
    rw [kept] at waits
    rcases retry with same | ⟨armed, -⟩
    · rcases minded waits with armed | parked
      · rw [← same] at armed
        exact .inl armed
      · rcases parked.of_course course with parked | ⟨down, opens⟩
        · exact .inr parked
        · exact .inl (arms down opens waits)
    · exact .inl armed

theorem isMinded_after (history : History) : (after config history).IsMinded := by
  induction history with
  | nil => exact fun waits => absurd rfl waits
  | cons turn past ih => exact ih.step (sound_after past) (settled_after past)

/-- **No message waits for nothing.**  When messages wait, the retry timer is armed, or the link is
down or connecting and has not opened, or not since another console took over; when it opens next,
the timer is armed.  So messages that wait on a link that is open, closing or to be tried again are
minded by the timer, and when it fires on an open link all of them are handed over, in the order in
which they were sent. -/
theorem retry_law (config : Config) (history : History) :
    let l := after config history
    (l.pending ≠ [] → l.sendRetry.isSome ∨
      hasOpened (effects config history) = false ∧
        (l.state = .disconnected ∨ l.state = .connecting)) ∧
    (∀ now input, l.state ≠ .opened → (l.step config now input).link.state = .opened →
      l.pending ≠ [] → (l.step config now input).link.sendRetry.isSome ∧
        (l.step config now input).link.pending = l.pending) ∧
    (l.pending ≠ [] → l.state = .opened ∨ l.state = .closing ∨ l.reconnect.isSome →
      l.sendRetry.isSome) ∧
    (l.state = .opened → l.sendRetry.isSome → ∀ now,
      l.step config now (.timer .sendRetry) = ⟨{ l with pending := [], sendRetry := none },
        l.pending.map fun message => .hand l.lifecycle.generation (.text message.text)⟩ ∧
      (ledger config history).waiting.map (·.message) = l.pending ∧
      (ledger config history).waiting.Pairwise (·.number < ·.number)) := by
  intro l
  have sound : Sound config l := sound_after history
  have minded : l.IsMinded := isMinded_after history
  refine ⟨fun waits => ?_, fun now input down opens waits => armed_of_opens sound down opens waits,
    fun waits live => ?_, fun up armed now => ⟨?_, (waiting_eq history).1, waiting_sorted history⟩⟩
  · refine (minded waits).imp_right fun parked => ⟨?_, parked.early⟩
    rw [← autoReconnect_eq]
    exact parked.ineligible
  · rcases minded waits with armed | parked
    · exact armed
    · exfalso
      rcases live with up | closing | scheduled
      · exact parked.not_opened up
      · rcases parked.early with down | connecting
        · cases closing.symm.trans down
        · cases closing.symm.trans connecting
      · cases parked.ineligible.symm.trans (sound.reconnect_iff.1 scheduled).2.2
  · have held : l.socket = some l.lifecycle.generation := sound.socket_eq_some (by simp [up])
    have fired : l.step config now (.timer .sendRetry) = l.fire config now .sendRetry :=
      if_pos armed
    rw [fired, fire]
    exact onSendRetry_of_opened (l := { l with sendRetry := none }) up held config now

end Link
end Lookout
