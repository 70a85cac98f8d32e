import Lookout.Proofs.Link.Reports
import Lookout.Proofs.System.Stride

/-!
# What a socket says of itself

A socket either fails to connect and says so, or it says that it is connected, then passes on what
it reads in order, and then says at most once that it has ended (`Account`).  Some of the ways in
which its task ends are silent; these are the ones that need no report, because the link has let
the socket go, or the client has been shut down.

`Fits` is what holds of one socket at all times: how it stands with the link, and that its phase
tells how far its account has come.  Every step of its task keeps it (`Deed.fits`).

## Main definitions

* `Account` — what a socket may have reported.
* `Traced`, `Fits` — a socket, what has arrived on it, and what it has said.
-/

namespace Lookout

/-- What the socket of a generation may have reported, oldest first. -/
inductive Account (generation : Nat) (arrived : List Arrival) : List TransportEvent → Prop where
  | silent : Account generation arrived []
  | failed (error : Error) : Account generation arrived [.connectFailed generation error]
  | talking (messages : List WireMessage) (read : messages.map .message <+: arrived) :
      Account generation arrived
        (.connected generation :: messages.map (.message generation))
  | closed (messages : List WireMessage) (error : Option Error)
      (read : messages.map .message <+: arrived) :
      Account generation arrived
        (.connected generation :: messages.map (.message generation) ++ [.closed generation error])

section
variable {generation : Nat} {arrived : List Arrival} {said : List TransportEvent}

/-- No end is among what a connected socket says at first. -/
theorem countP_isEnd_talk (messages : List WireMessage) :
    (TransportEvent.connected generation :: messages.map (.message generation)).countP
      TransportEvent.isEnd = 0 := by
  rw [List.countP_eq_zero]
  intro event member
  rcases List.mem_cons.1 member with rfl | member
  · simp [TransportEvent.isEnd]
  · obtain ⟨message, -, rfl⟩ := List.mem_map.1 member
    simp [TransportEvent.isEnd]

/-- An account has at most one end. -/
theorem Account.countP_isEnd_le (account : Account generation arrived said) :
    said.countP TransportEvent.isEnd ≤ 1 := by
  cases account with
  | silent => exact Nat.zero_le 1
  | failed error => exact List.countP_le_length
  | talking messages read =>
    rw [countP_isEnd_talk]
    exact Nat.zero_le 1
  | closed messages error read =>
    rw [List.countP_append, countP_isEnd_talk, Nat.zero_add]
    exact List.countP_le_length

/-- An account does not begin with a message. -/
theorem Account.not_message {message : WireMessage} {rest : List TransportEvent} :
    ¬ Account generation arrived (.message generation message :: rest) := by
  intro account
  cases account

/-- What arrives later does not change an account. -/
theorem Account.append (account : Account generation arrived said) (more : List Arrival) :
    Account generation (arrived ++ more) said := by
  cases account with
  | silent => exact .silent
  | failed error => exact .failed error
  | talking messages read => exact .talking messages (read.trans (List.prefix_append _ _))
  | closed messages error read =>
    exact .closed messages error (read.trans (List.prefix_append _ _))

end

/-! ## One socket -/

/-- The phase of a socket tells how far its account has come, and what it has still to read. -/
inductive Traced (k : Socket) (arrived : List Arrival) (said : List TransportEvent) : Prop where
  | early (early : k.phase ≠ .running) (live : k.phase ≠ .ended) (mute : said = [])
      (unread : arrived = k.inbound)
  | running (messages : List WireMessage) (running : k.phase = .running)
      (told : said = .connected k.generation :: messages.map (.message k.generation))
      (unread : arrived = messages.map .message ++ k.inbound)
  | ended (ended : k.phase = .ended) (account : Account k.generation arrived said)

/-- A socket beside its link, what has arrived on it, and what it has said. -/
structure Fits (l : Link) (shutDown : Bool) (k : Socket) (arrived : List Arrival)
    (said : List TransportEvent) : Prop where
  held_iff : k.released = false ↔ l.socket = some k.generation
  -- A socket that writes a close message ends without a word.
  close : .close ∈ k.outbound → k.released = true
  traced : Traced k arrived said
  ended : k.phase = .ended → k.released = false → shutDown = false →
    ∃ event ∈ said, event.isEnd = true

section
variable {k k' : Socket} {arrived : List Arrival} {said reports : List TransportEvent}

theorem Traced.account (traced : Traced k arrived said) : Account k.generation arrived said := by
  cases traced with
  | early early live mute unread => rw [mute]; exact .silent
  | running messages running told unread =>
    rw [told, unread]
    exact .talking messages (List.prefix_append _ _)
  | ended ended account => exact account

/-- A socket that has not been connected has said nothing. -/
theorem Traced.of_early (traced : Traced k arrived said) (early : k.phase ≠ .running)
    (live : k.phase ≠ .ended) : said = [] ∧ arrived = k.inbound := by
  cases traced with
  | early _ _ mute unread => exact ⟨mute, unread⟩
  | running messages running => exact absurd running early
  | ended ended => exact absurd ended live

theorem Traced.of_running (traced : Traced k arrived said) (running : k.phase = .running) :
    ∃ messages : List WireMessage,
      said = .connected k.generation :: messages.map (.message k.generation) ∧
      arrived = messages.map .message ++ k.inbound := by
  cases traced with
  | early early => exact absurd running early
  | running messages _ told unread => exact ⟨messages, told, unread⟩
  | ended ended =>
    rw [running] at ended
    cases ended

/-- A socket that goes on has not said that it has ended. -/
theorem Traced.countP_isEnd (traced : Traced k arrived said) (live : k.phase ≠ .ended) :
    said.countP TransportEvent.isEnd = 0 := by
  cases traced with
  | early early live mute unread =>
    rw [mute]
    rfl
  | running messages running told unread =>
    rw [told]
    exact countP_isEnd_talk messages
  | ended ended => exact absurd ended live

theorem Traced.congr (traced : Traced k arrived said) (generation : k'.generation = k.generation)
    (phase : k'.phase = k.phase) (inbound : k'.inbound = k.inbound) : Traced k' arrived said := by
  cases traced with
  | early early live mute unread =>
    exact .early (by rwa [phase]) (by rwa [phase]) mute (by rw [unread, inbound])
  | running messages running told unread =>
    exact .running messages (phase.trans running) (by rw [told, generation])
      (by rw [unread, inbound])
  | ended ended account =>
    refine .ended (phase.trans ended) ?_
    rw [generation]
    exact account

/-- What arrives is read later, or never. -/
theorem Traced.receives {arrival : Arrival} (traced : Traced k arrived said)
    (receives : System.Receives k arrival k') : Traced k' (arrived ++ [arrival]) said := by
  have phase := receives.phase_eq
  have generation := receives.generation_eq
  cases traced with
  | early early live mute unread =>
    refine .early (by rwa [phase]) (by rwa [phase]) mute ?_
    rw [unread, receives.inbound_eq live]
  | running messages running told unread =>
    refine .running messages (phase.trans running) (by rw [told, generation]) ?_
    rw [unread, receives.inbound_eq (by simp [running]), List.append_assoc]
  | ended ended account =>
    refine .ended (phase.trans ended) ?_
    rw [generation]
    exact account.append [arrival]

namespace System
variable {s : System}

theorem Deed.generation_eq (deed : Deed s k k' reports) : k'.generation = k.generation := by
  cases deed <;> rfl

/-- A socket reports in its own name. -/
theorem Deed.generation_of_mem (deed : Deed s k k' reports) {event : TransportEvent}
    (member : event ∈ reports) : event.generation = k.generation := by
  cases deed with
  | dialed | wrote | left => cases member
  | refused | accepted | read | broke =>
    rw [List.mem_singleton.1 member]
    rfl

/-- **The task of a socket keeps to its account.** -/
theorem Deed.fits (deed : Deed s k k' reports) (driving : s.driving = true)
    (fits : Fits s.link s.shutDown k arrived said) :
    Fits s.link s.shutDown k' arrived (said ++ reports) := by
  have traced := fits.traced
  cases deed with
  | dialed fresh =>
    have ⟨mute, unread⟩ := traced.of_early (by simp [fresh]) (by simp [fresh])
    exact ⟨fits.held_iff, fits.close, .early nofun nofun (by simp [mute]) unread, nofun⟩
  | refused early live =>
    have ⟨mute, _⟩ := traced.of_early early live
    refine ⟨fits.held_iff, nofun, .ended rfl ?_, fun _ _ _ =>
      ⟨_, List.mem_append_right said (.head _), rfl⟩⟩
    rw [mute]
    exact .failed _
  | accepted early live =>
    have ⟨mute, unread⟩ := traced.of_early early live
    exact ⟨fits.held_iff, fits.close, .running [] rfl (by rw [mute]; rfl) unread, nofun⟩
  | wrote running =>
    obtain ⟨messages, told, unread⟩ := traced.of_running running
    refine ⟨fits.held_iff, fun member => fits.close (List.mem_of_mem_drop member), ?_, ?_⟩
    · exact .running messages running (by simp [told]) unread
    · intro ended
      cases running.symm.trans ended
  | @read message rest running next =>
    obtain ⟨messages, told, unread⟩ := traced.of_running running
    refine ⟨fits.held_iff, fits.close, .running (messages ++ [message]) running ?_ ?_, ?_⟩
    · simp [told]
    · simp [unread, next]
    · intro ended
      cases running.symm.trans ended
  | @broke error running =>
    obtain ⟨messages, told, unread⟩ := traced.of_running running
    refine ⟨fits.held_iff, nofun, .ended rfl ?_, fun _ _ _ =>
      ⟨_, List.mem_append_right said (.head _), rfl⟩⟩
    rw [told, unread]
    exact .closed messages error (List.prefix_append _ _)
  | left alone =>
    rw [List.append_nil]
    refine ⟨fits.held_iff, nofun, .ended rfl traced.account, ?_⟩
    -- A silent end is one of a socket that has been let go.
    intro _ held running
    rcases alone with gone | close | alone
    · rw [cancelled, Bool.or_eq_true, running] at gone
      rcases gone with released | shut
      · cases held.symm.trans released
      · cases shut
    · cases held.symm.trans (fits.close close)
    · cases driving.symm.trans alone

end System
end

end Lookout
