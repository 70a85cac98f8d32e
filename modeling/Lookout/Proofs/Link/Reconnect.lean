import Lookout.Proofs.Link.History

/-!
# When a link is tried again

The reconnect timer is armed exactly while the link is down, not ended and eligible.  Eligibility is
read off what the application was told: of the openings and the takeovers, the latest is an opening.

## Main definitions

* `hasOpened` — eligibility, from the effects of a history.
* `lastAccepted` — the address of the latest order to connect that found the link down.
-/

namespace Lookout
namespace Link

/-- Whether a socket has opened since the last takeover, if there was one. -/
def hasOpened : List Effect → Bool
  | [] => false
  | .notify .opened :: _ => true
  | .notify .superseded :: _ => false
  | _ :: past => hasOpened past

/-- The address of the latest order to connect that found the link down. -/
def lastAccepted (config : Config) : History → Option String
  | [] => none
  | (_, .command (.connect url)) :: past =>
    if (after config past).state = .disconnected then some url else lastAccepted config past
  | _ :: past => lastAccepted config past

variable {config : Config}

/-! ## Eligibility -/

theorem hasOpened_append {effects past : List Effect} (steady : .notify .opened ∉ effects)
    (kept : .notify .superseded ∉ effects) : hasOpened (effects ++ past) = hasOpened past := by
  induction effects with
  | nil => rfl
  | cons effect effects ih =>
    rw [List.mem_cons, not_or] at steady kept
    rw [List.cons_append, hasOpened, ih steady.2 kept.2]
    · rintro rfl
      exact steady.1 rfl
    · rintro rfl
      exact kept.1 rfl

/-- The end of a socket opens nothing and tells of no takeover. -/
theorem Ending.not_mem {now : Millis} {error : Option Error} {l : Link} {turn : Turn}
    (ending : Ending now error l turn) :
    .notify .opened ∉ turn.effects ∧ .notify .superseded ∉ turn.effects ∧
      ∀ generation url, .dial generation url ∉ turn.effects := by
  cases ending <;> cases told : l.isUp <;> simp [parting, told]

/-- What a link remembers of its eligibility is what the application was told about it. -/
theorem autoReconnect_eq (history : History) :
    (after config history).lifecycle.autoReconnect = hasOpened (effects config history) := by
  induction history with
  | nil => rfl
  | cons turn past ih =>
    obtain ⟨now, input⟩ := turn
    have course : Course config now _ input _ := course_after past now input
    simp only [effects, after]
    generalize (after config past).step config now input = turn at course
    cases course with
    | steady minor same quiet =>
      rw [hasOpened_append, same.lifecycle, ih]
      · rw [List.mem_reverse]; exact fun told => quiet _ told
      · rw [List.mem_reverse]; exact fun told => quiet _ told
    | heard message current =>
      have quiet (effect : Effect) (member : effect ∈ resultEffects message) :
          effect ≠ .notify .opened ∧ effect ≠ .notify .superseded := by
        obtain ⟨result, rfl⟩ := eq_queueResult_of_mem member
        exact ⟨nofun, nofun⟩
      rw [hasOpened_append, ← ih]
      · simpa using fun told => (quiet _ told).1 rfl
      · simpa using fun told => (quiet _ told).2 rfl
    | dialed cause down => exact ih
    | opened connecting => rfl
    | announced current up => exact ih
    | superseded current => rfl
    | abandoned down => exact ih
    | closed up ending =>
      obtain ⟨steady, kept, -⟩ := ending.not_mem
      rw [hasOpened_append (by simpa using steady) (by simpa using kept), ← ih]
      exact ending.autoReconnect_eq
    | ended cause up ending =>
      obtain ⟨steady, kept, -⟩ := ending.not_mem
      rw [hasOpened_append (by simpa using steady) (by simpa using kept), ← ih]
      exact ending.autoReconnect_eq

/-! ## Addresses -/

/-- The address changes with an order to connect that finds the link down, and with nothing else. -/
theorem Course.url_eq {now : Millis} {l : Link} {input : Input} {turn : Turn}
    (course : Course config now l input turn)
    (other : ∀ url, input = .command (.connect url) → l.state ≠ .disconnected) :
    turn.link.url = l.url := by
  cases course with
  | steady minor same quiet => exact same.url
  | @dialed input url cause down =>
    rcases cause with rfl | ⟨-, known, -⟩
    · exact absurd down (other url rfl)
    · exact known.symm
  | closed up ending => exact ending.url_eq
  | ended cause up ending => exact ending.url_eq
  | heard | opened | announced | superseded | abandoned => rfl

theorem url_eq_lastAccepted (history : History) :
    (after config history).url = lastAccepted config history := by
  induction history with
  | nil => rfl
  | cons turn past ih =>
    obtain ⟨now, input⟩ := turn
    have course : Course config now _ input _ := course_after past now input
    by_cases connects : ∃ url, input = .command (.connect url)
    · obtain ⟨url, rfl⟩ := connects
      by_cases down : (after config past).state = .disconnected
      · rw [lastAccepted, if_pos down]
        exact congrArg (·.link.url) (connect_eq url down)
      · rw [lastAccepted, if_neg down, ← ih]
        exact course.url_eq fun _ _ => down
    · rw [lastAccepted, ← ih]
      · exact course.url_eq fun url order => absurd ⟨url, order⟩ connects
      · rintro - url ⟨⟩
        exact connects ⟨url, rfl⟩

/-! ## Attempts -/

section
variable {now : Millis} {l : Link} {input : Input} {turn : Turn}

/-- What makes a link dial. -/
theorem Course.cause_of_dial (course : Course config now l input turn) {generation : Nat}
    {url : String} (dials : .dial generation url ∈ turn.effects) :
    input = .command (.connect url) ∨
      input = .timer .reconnect ∧ l.url = some url ∧ l.reconnect.isSome := by
  cases course with
  | steady minor same quiet => exact absurd (quiet _ dials) id
  | heard message current =>
    rcases aside_of_heard dials with ⟨_, eq⟩ | ⟨_, eq⟩ <;> cases eq
  | dialed cause down =>
    cases List.mem_singleton.1 dials
    exact cause
  | opened => cases List.mem_singleton.1 dials
  | superseded => cases List.mem_singleton.1 dials
  | closed up ending =>
    rcases List.mem_cons.1 dials with handed | dials
    · cases handed
    · exact absurd dials (ending.not_mem.2.2 _ _)
  | ended cause up ending => exact absurd dials (ending.not_mem.2.2 _ _)
  | announced | abandoned => cases dials

/-- Only an order to connect revives a link that has ended. -/
theorem Course.isTerminated (course : Course config now l input turn) (sound : Sound config l)
    (ended : l.lifecycle.isTerminated = true) (other : ∀ url, input ≠ .command (.connect url)) :
    turn.link.lifecycle.isTerminated = true := by
  cases course with
  | steady minor same quiet => rw [same.lifecycle]; exact ended
  | @dialed input url cause down =>
    rcases cause with rfl | ⟨-, -, armed⟩
    · exact absurd rfl (other url)
    · obtain ⟨-, free, -⟩ := sound.reconnect_iff.1 armed
      simp [Lifecycle.isTerminated, free] at ended
  | heard | opened | announced => exact ended
  | superseded | abandoned => rfl
  | closed up ending => exact ending.isTerminated rfl
  | ended cause up ending => exact ending.isTerminated ended

end

@[simp] theorem dials_cons (now : Millis) (input : Input) (past : History) :
    dials config ((now, input) :: past) =
      ((after config past).step config now input).effects.reverse.filterMap dial? ++
        dials config past := by
  simp [dials, effects]

theorem eq_dial_of_dial? {effect : Effect} {attempt : Nat × String}
    (dials : dial? effect = some attempt) : effect = .dial attempt.1 attempt.2 := by
  cases effect with
  | dial generation url => cases dials; rfl
  | _ => cases dials

/-- A link that has ended stays ended and dials no more until it is ordered to connect. -/
theorem dials_of_isTerminated {past : History}
    (ended : (after config past).lifecycle.isTerminated = true) (later : History)
    (other : ∀ turn ∈ later, ∀ url, turn.2 ≠ .command (.connect url)) :
    (after config (later ++ past)).lifecycle.isTerminated = true ∧
      dials config (later ++ past) = dials config past := by
  induction later with
  | nil => exact ⟨ended, rfl⟩
  | cons turn later ih =>
    obtain ⟨now, input⟩ := turn
    obtain ⟨still, same⟩ := ih fun turn member => other turn (.tail _ member)
    have course : Course config now _ input _ := course_after (later ++ past) now input
    have sound : Sound config (after config (later ++ past)) := sound_after _
    have orders := other _ (.head _)
    refine ⟨course.isTerminated sound still orders, ?_⟩
    rw [List.cons_append, dials_cons, same, List.append_left_eq_self, List.filterMap_eq_nil_iff]
    intro effect member
    cases dials : dial? effect with
    | none => rfl
    | some attempt =>
      rw [List.mem_reverse, eq_dial_of_dial? dials] at member
      rcases course.cause_of_dial member with order | ⟨-, -, armed⟩
      · exact absurd order (orders _)
      · have free := (sound.reconnect_iff.1 armed).2.1
        simp [Lifecycle.isTerminated, free] at still

/-- **When a link is tried again.**  The timer is armed exactly while the link is down, has not
ended and is eligible.  So a link that has ended dials no more until it is ordered to connect, a
link that is down and eligible either has an attempt scheduled or has ended, and a scheduled attempt
goes to the address of the latest order to connect that found the link down; nothing else dials but
such an order. -/
theorem reconnect_law (config : Config) (history : History) :
    let l := after config history
    (l.reconnect.isSome ↔ l.state = .disconnected ∧ l.lifecycle.isTerminated = false ∧
      hasOpened (effects config history) = true) ∧
    (l.lifecycle.isTerminated = true → ∀ later : History,
      (∀ turn ∈ later, ∀ url, turn.2 ≠ .command (.connect url)) →
      dials config (later ++ history) = dials config history) ∧
    (l.state = .disconnected → hasOpened (effects config history) = true →
      l.reconnect.isSome ∨ l.lifecycle.isTerminated = true) ∧
    (l.reconnect.isSome → ∃ url, lastAccepted config history = some url ∧
      ∀ now, dials config ((now, .timer .reconnect) :: history) =
        (l.lifecycle.generation + 1, url) :: dials config history) ∧
    (∀ now input generation url, .dial generation url ∈ (l.step config now input).effects →
      input = .command (.connect url) ∨
        input = .timer .reconnect ∧ lastAccepted config history = some url) := by
  intro l
  have sound : Sound config l := sound_after history
  have armed_iff : l.reconnect.isSome ↔ l.state = .disconnected ∧
      l.lifecycle.isTerminated = false ∧ hasOpened (effects config history) = true := by
    rw [sound.reconnect_iff, ← autoReconnect_eq]
    simp [Lifecycle.isTerminated, l]
  refine ⟨armed_iff, fun ended later other => (dials_of_isTerminated ended later other).2,
    ?_, ?_, ?_⟩
  · intro down eligible
    cases ended : l.lifecycle.isTerminated with
    | false => exact .inl (armed_iff.2 ⟨down, ended, eligible⟩)
    | true => exact .inr rfl
  · intro armed
    obtain ⟨url, known, dialed⟩ := fire_reconnect sound armed
    refine ⟨url, by rw [← url_eq_lastAccepted]; exact known, fun now => ?_⟩
    have turn : l.step config now (.timer .reconnect) = l.fire config now .reconnect :=
      if_pos armed
    rw [dials_cons, turn, dialed]
    rfl
  · intro now input generation url dials
    rw [← url_eq_lastAccepted]
    rcases (course_after history now input).cause_of_dial dials with order | ⟨timer, known, -⟩
    · exact .inl order
    · exact .inr ⟨timer, known⟩

end Link
end Lookout
