import Lookout.Proofs.Link.Resources

/-!
# What a link makes of its sockets and their reports

A turn either dials, which gives the link a new generation, or it keeps to the generation that it
finds (`Course.dials_or_keeps`).  The report that a socket is connected opens a link that waits for
it, and the report that a socket has ended takes the link down; a report of any other generation
than the present one does nothing at all (`step_stale`).
-/

namespace Lookout

/-- Whether an event is the end of its socket. -/
def TransportEvent.isEnd : TransportEvent → Bool
  | connectFailed _ _ | closed _ _ => true
  | connected _ | message _ _ => false

namespace Link

variable {config : Config} {now : Millis} {l : Link} {input : Input} {turn : Turn}

/-! ## Sockets -/

/-- A turn that keeps to the generation it finds: the socket is held until it is released, and it is
released when it has been handed its close message. -/
structure Keeps (l : Link) (turn : Turn) : Prop where
  generation_eq : turn.link.lifecycle.generation = l.lifecycle.generation
  connecting : turn.link.state = .connecting → l.state = .connecting
  down : l.state = .disconnected → turn.link.state = .disconnected
  not_dial : ∀ generation url, .dial generation url ∉ turn.effects
  held_iff : ∀ generation, turn.link.socket = some generation ↔
    l.socket = some generation ∧ .release generation ∉ turn.effects
  close : ∀ generation, .hand generation .close ∈ turn.effects →
    .release generation ∈ turn.effects

/-- Effects that concern no socket. -/
theorem Keeps.of_aside (generation_eq : turn.link.lifecycle.generation = l.lifecycle.generation)
    (connecting : turn.link.state = .connecting → l.state = .connecting)
    (down : l.state = .disconnected → turn.link.state = .disconnected)
    (socket_eq : turn.link.socket = l.socket)
    (aside : ∀ effect ∈ turn.effects,
      (∃ notice, effect = .notify notice) ∨ ∃ result, effect = .queueResult result) :
    Keeps l turn where
  generation_eq := generation_eq
  connecting := connecting
  down := down
  not_dial generation url member := by
    rcases aside _ member with ⟨_, eq⟩ | ⟨_, eq⟩ <;> cases eq
  held_iff generation := by
    rw [socket_eq]
    refine ⟨fun held => ⟨held, fun member => ?_⟩, fun held => held.1⟩
    rcases aside _ member with ⟨_, eq⟩ | ⟨_, eq⟩ <;> cases eq
  close generation member := by
    rcases aside _ member with ⟨_, eq⟩ | ⟨_, eq⟩ <;> cases eq

theorem Ending.keeps {error : Option Error} (ending : Ending now error l turn) :
    Keeps l turn where
  generation_eq := ending.generation_eq
  connecting connecting := by rw [ending.state_eq] at connecting; cases connecting
  down _ := ending.state_eq
  not_dial generation url := by
    cases ending <;> cases told : l.isUp <;> simp [parting, told]
  held_iff generation := by
    rw [ending.released.1]
    constructor
    · intro held
      cases held
    · intro kept
      exact absurd (ending.release_mem kept.1) kept.2
  close generation member := absurd member (ending.not_hand generation .close)

/-- **A turn either dials or keeps to the generation it finds**; it dials only from below, and no
report makes it dial. -/
theorem Course.dials_or_keeps (course : Course config now l input turn) (sound : Sound config l) :
    (∃ url, turn = ⟨l.dialing url, [.dial (l.lifecycle.generation + 1) url]⟩ ∧
      l.state = .disconnected ∧ ∀ event, input ≠ .transport event) ∨ Keeps l turn := by
  cases course with
  | steady minor same quiet =>
    refine .inr ⟨?_, ?_, ?_, fun _ _ member => quiet _ member, fun generation => ?_, fun _ member =>
      absurd (quiet _ member) id⟩
    · rw [same.lifecycle]
    · rw [state, same.lifecycle]
      exact id
    · intro down
      rw [state, same.lifecycle]
      exact down
    · rw [same.socket]
      exact ⟨fun held => ⟨held, fun member => quiet _ member⟩, fun held => held.1⟩
  | heard message current =>
    exact .inr (.of_aside rfl id id rfl fun _ => aside_of_heard)
  | @dialed input url cause down =>
    refine .inl ⟨url, rfl, down, ?_⟩
    intro event report
    rcases cause with rfl | ⟨rfl, -⟩ <;> cases report
  | opened connecting =>
    refine .inr (.of_aside rfl (by simp [opening]) (fun down => ?_) rfl fun effect member => ?_)
    · rw [connecting] at down
      cases down
    · exact .inl ⟨_, List.mem_singleton.1 member⟩
  | announced current up =>
    refine .inr (.of_aside rfl (by simp [expiring]) (fun down => ?_) rfl (by simp))
    rw [up] at down
    cases down
  | superseded current =>
    exact .inr (.of_aside rfl id id rfl fun effect member => .inl ⟨_, List.mem_singleton.1 member⟩)
  | abandoned down => exact .inr (.of_aside rfl id id rfl (by simp))
  | closed up ending =>
    have keeps := ending.keeps
    have release := ending.release_mem (sound.socket_eq_some up)
    refine .inr ⟨keeps.generation_eq, keeps.connecting, keeps.down, ?_, ?_, ?_⟩
    · intro generation url member
      rcases List.mem_cons.1 member with handed | member
      · cases handed
      · exact keeps.not_dial _ _ member
    · intro generation
      simpa [resigned] using keeps.held_iff generation
    · intro generation member
      rcases List.mem_cons.1 member with handed | member
      · cases handed
        exact .tail _ release
      · exact .tail _ (keeps.close _ member)
  | ended cause up ending => exact .inr ending.keeps

/-! ## Reports -/

/-- The report that a socket is connected opens a link that waits for it. -/
theorem state_connected (connecting : l.state = .connecting) (config : Config) (now : Millis) :
    (l.step config now (.transport (.connected l.lifecycle.generation))).link.state = .opened := by
  by_cases waits : l.pending.isEmpty <;>
    simp [step, connected, Lifecycle.opened, connecting, waits, armSendRetry, Link.idle,
      Turn.notify, Turn.also, publish]

/-- The end of the present socket takes the link down. -/
theorem state_of_isEnd {event : TransportEvent} (ends : event.isEnd = true)
    (current : l.lifecycle.isCurrent event.generation = true) (config : Config) (now : Millis) :
    (l.step config now (.transport event)).link.state = .disconnected := by
  obtain ⟨same, up⟩ := isCurrent_iff.1 current
  cases event with
  | connected | message => cases ends
  | connectFailed generation error =>
    cases same
    exact (afterSocket_ending up now _).state_eq
  | closed generation error =>
    cases same
    exact (afterSocket_ending up now _).state_eq

/-- A report of another generation than the present one does nothing. -/
theorem step_stale {event : TransportEvent}
    (stale : l.lifecycle.isCurrent event.generation = false) (config : Config) (now : Millis) :
    l.step config now (.transport event) = l.idle := by
  cases event with
  | connected generation =>
    have late : ¬ (l.state = .connecting ∧ generation = l.lifecycle.generation) := by
      rintro ⟨connecting, same⟩
      have current := isCurrent_iff.2 ⟨same, show l.state ≠ .disconnected by simp [connecting]⟩
      cases current.symm.trans stale
    simp only [step, connected, Lifecycle.opened, late, if_false]
  | connectFailed generation error => exact afterSocket_stale stale now _
  | message generation message =>
    exact if_neg (Bool.eq_false_iff.1 stale)
  | closed generation error => exact afterSocket_stale stale now _

end Link
end Lookout
