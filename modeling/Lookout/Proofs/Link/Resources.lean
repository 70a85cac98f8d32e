import Lookout.Proofs.Link.History

/-!
# What a link holds

The socket, the two timers that belong to it and the state that the client sees are fields of their
own, set and cleared by different handlers.  They follow the state of the link all the same, which
says where signs of life go, how a link that is closing ends, and what is left of a socket that is
let go.
-/

namespace Lookout
namespace Link

variable {config : Config} {now : Millis} {l : Link} {input : Input} {turn : Turn}

/-- A turn that ends a socket hands nothing to it. -/
theorem Ending.not_hand {error : Option Error} (ending : Ending now error l turn)
    (generation : Nat) (message : WireMessage) : .hand generation message ∉ turn.effects := by
  cases ending <;> cases told : l.isUp <;> simp [parting, told]

/-- A text is handed to the socket of an open link only. -/
theorem Course.opened_of_hand (course : Course config now l input turn) {generation : Nat}
    {text : String} (handed : .hand generation (.text text) ∈ turn.effects) :
    l.state = .opened ∧ l.socket = some generation := by
  cases course with
  | steady minor same quiet => exact quiet _ handed
  | heard inbound current =>
    rcases aside_of_heard handed with ⟨_, eq⟩ | ⟨_, eq⟩ <;> cases eq
  | closed up ending =>
    rcases List.mem_cons.1 handed with handed | handed
    · cases handed
    · exact absurd handed (ending.not_hand _ _)
  | ended cause up ending => exact absurd handed (ending.not_hand _ _)
  | dialed | opened | superseded => cases List.mem_singleton.1 handed
  | announced | abandoned => cases handed

/-- A turn that ends a socket lets it go. -/
theorem Ending.release_mem {error : Option Error} (ending : Ending now error l turn)
    {generation : Nat} (held : l.socket = some generation) :
    .release generation ∈ turn.effects := by
  cases ending <;> simp [parting, held]

/-- What is left of a link that has let its socket go. -/
theorem Ending.released {error : Option Error} (ending : Ending now error l turn) :
    turn.link.socket = none ∧ turn.link.heartbeat = none ∧ turn.link.closeGrace = none := by
  cases ending <;> exact ⟨rfl, rfl, rfl⟩

/-- A socket is let go together with the timers that belong to it. -/
theorem Course.released (course : Course config now l input turn) {generation : Nat}
    (release : .release generation ∈ turn.effects) :
    turn.link.socket = none ∧ turn.link.heartbeat = none ∧ turn.link.closeGrace = none := by
  cases course with
  | steady minor same quiet => exact absurd (quiet _ release) id
  | heard inbound current =>
    rcases aside_of_heard release with ⟨_, eq⟩ | ⟨_, eq⟩ <;> cases eq
  | closed up ending => exact ending.released
  | ended cause up ending => exact ending.released
  | dialed | opened | superseded => cases List.mem_singleton.1 release
  | announced | abandoned => cases release

/-- The end of a link that the device has not closed in time. -/
theorem forced_release (sound : Sound config l) (closing : l.state = .closing) (now : Millis) :
    (l.step config now (.timer .closeGrace)).link.state = .disconnected ∧
      .release l.lifecycle.generation ∈ (l.step config now (.timer .closeGrace)).effects := by
  have up : l.state ≠ .disconnected := by simp [closing]
  have held : l.socket = some l.lifecycle.generation := sound.socket_eq_some up
  have fired : l.step config now (.timer .closeGrace) = l.fire config now .closeGrace :=
    if_pos (sound.closeGrace_iff.2 closing)
  obtain ⟨error, ending⟩ := ending_closeGrace closing config now
  rw [fired]
  exact ⟨ending.state_eq, ending.release_mem held⟩

/-- **What a link holds fits its state.**  A socket is held unless the link is down, signs of life
are sent exactly while it is open, the device's time to close runs exactly while it is closing, and
the client sees the state.  So a sign of life, like any other text, goes to the socket of an open
link only, a link that is closing will be let go whatever the device does, and nothing that belongs
to a socket outlives it. -/
theorem resources_law (config : Config) (history : History) :
    let l := after config history
    (l.socket.isSome ↔ l.state ≠ .disconnected) ∧
    (l.heartbeat.isSome ↔ l.state = .opened) ∧
    (l.closeGrace.isSome ↔ l.state = .closing) ∧
    l.published = l.state ∧
    (∀ now input generation text,
      .hand generation (.text text) ∈ (l.step config now input).effects →
      l.state = .opened ∧ l.socket = some generation) ∧
    (l.state = .closing → ∃ due, l.closeGrace = some due ∧ ∀ now,
      (l.step config now (.timer .closeGrace)).link.state = .disconnected ∧
      .release l.lifecycle.generation ∈ (l.step config now (.timer .closeGrace)).effects) ∧
    (∀ now input generation, .release generation ∈ (l.step config now input).effects →
      (l.step config now input).link.socket = none ∧
      (l.step config now input).link.heartbeat = none ∧
      (l.step config now input).link.closeGrace = none) := by
  intro l
  have sound : Sound config l := sound_after history
  refine ⟨?_, sound.heartbeat_iff, sound.closeGrace_iff, sound.published_eq, ?_, ?_, ?_⟩
  · rw [sound.socket_eq]
    split <;> simp [*]
  · intro now input generation text handed
    exact (course_step sound now input).opened_of_hand handed
  · intro closing
    obtain ⟨due, armed⟩ := Option.isSome_iff_exists.1 (sound.closeGrace_iff.2 closing)
    exact ⟨due, armed, forced_release sound closing⟩
  · intro now input generation release
    exact (course_step sound now input).released release

end Link
end Lookout
