import Lookout.Link.Message

/-!
# The protocol of link notices

A chronicle is what the application has been told about a link, latest first, together with what
makes the link change from outside: an accepted order to connect, a scheduled attempt, and the
user's order to close.  `Orderly` is the protocol that such a chronicle keeps, one clause for each
kind of notice, over all positions of the chronicle.

A chronicle grows by one mark at a time, so the protocol is checked mark by mark: `Follows` says
what may come after a given past, `Chain` that every mark did, and `Chain.orderly` that a chain
which owes no verdict is orderly.

## Main definitions

* `Mark`, `Chronicle` and what can be read off one: `isUp`, `attempts`, `isRenounced`, `isOver`.
* `Chronicle.Orderly` — the protocol.
* `Chronicle.Follows`, `Chronicle.Chain` — the protocol, one mark at a time.
-/

namespace Lookout

namespace Notice

/-- Whether a notice is about the link and not about a stream. -/
def isLink : Notice → Bool
  | opened | message _ | disconnected _ | reconnecting _ _ | linkLost _ | superseded => true
  | aligned _ | streamStats _ | overlayExpired _ => false

/-- Whether a notice says what follows the end of a socket. -/
def isVerdict : Notice → Bool
  | reconnecting _ _ | linkLost _ => true
  | _ => false

end Notice

/-- What happens to a link, seen from outside. -/
inductive Mark where
  /-- an order to connect has found the link down; whether the link had ended before -/
  | accepted (restart : Bool)
  /-- the time of a scheduled attempt has come -/
  | retried
  /-- the user has ended the link -/
  | resigned
  /-- the application has been told something about the link -/
  | told (notice : Notice)

/-- The marks of a link, latest first. -/
abbrev Chronicle := List Mark

namespace Chronicle

/-! ## Reading a chronicle -/

/-- Whether the latest opening has not ended yet. -/
def isUp : Chronicle → Bool
  | [] => false
  | .told .opened :: _ => true
  | .told (.disconnected _) :: _ => false
  | _ :: past => isUp past

/-- How many attempts have been announced since the link was last open, or last started afresh after
it had ended. -/
def attempts : Chronicle → Nat
  | [] => 0
  | .told .opened :: _ => 0
  | .accepted true :: _ => 0
  | .told (.reconnecting _ _) :: past => attempts past + 1
  | _ :: past => attempts past

/-- Whether the user or another console has ended the link since it was last open. -/
def isRenounced : Chronicle → Bool
  | [] => false
  | .told .opened :: _ => false
  | .told .superseded :: _ => true
  | .resigned :: _ => true
  | _ :: past => isRenounced past

/-- Whether nothing follows before another order to connect: the link is lost, or it is down after
it was ended on purpose. -/
def isOver : Chronicle → Bool
  | [] => false
  | .accepted _ :: _ => false
  | .told (.linkLost _) :: _ => true
  | .told (.disconnected _) :: past => isRenounced past
  | _ :: past => isOver past

/-- Whether the end of the link has just been told, and a verdict is owed. -/
def owesVerdict : Chronicle → Bool
  | .told (.disconnected _) :: past => !isRenounced past
  | _ => false

/-- Whether a verdict may come next: about a link that has just ended, or about an attempt. -/
def admitsVerdict : Chronicle → Bool
  | .accepted _ :: _ | .retried :: _ => true
  | past => owesVerdict past

/-- Nothing is told before another order to connect is accepted. -/
def Silent (later : Chronicle) : Prop :=
  ∀ after notice before, later = after ++ .told notice :: before →
    ∃ restart, .accepted restart ∈ before

/-- The protocol of link notices, for a link that is tried again `limit` times. -/
structure Orderly (limit : Nat) (chronicle : Chronicle) : Prop where
  /-- only a link that is not up opens -/
  opened : ∀ later past : Chronicle, chronicle = later ++ .told .opened :: past →
    past.isUp = false
  /-- only a link that is up ends -/
  disconnected : ∀ (later past : Chronicle) error,
    chronicle = later ++ .told (.disconnected error) :: past → past.isUp = true
  /-- messages come over a link that is up -/
  message : ∀ (later past : Chronicle) message,
    chronicle = later ++ .told (.message message) :: past → past.isUp = true
  /-- a link that is up is taken over -/
  superseded : ∀ later past : Chronicle, chronicle = later ++ .told .superseded :: past →
    past.isUp = true
  /-- the end of a link is followed at once by one verdict, and not by a second one -/
  verdict : ∀ (later past : Chronicle) error,
    chronicle = later ++ .told (.disconnected error) :: past → past.isRenounced = false →
    ∃ rest notice, later = rest ++ [.told notice] ∧ notice.isVerdict = true ∧
      ∀ others next, rest = others ++ [.told next] → next.isVerdict = false
  /-- unless the link was ended on purpose: then nothing follows -/
  renounced : ∀ (later past : Chronicle) error,
    chronicle = later ++ .told (.disconnected error) :: past → past.isRenounced = true →
    later.Silent
  /-- attempts are counted from the last opening or fresh start, up to the limit -/
  reconnecting : ∀ (later past : Chronicle) attempt most,
    chronicle = later ++ .told (.reconnecting attempt most) :: past →
    attempt = past.attempts + 1 ∧ attempt ≤ most ∧ most = limit
  /-- the link is lost when all attempts are used up, and then nothing follows -/
  linkLost : ∀ (later past : Chronicle) attempts,
    chronicle = later ++ .told (.linkLost attempts) :: past →
    attempts = limit ∧ past.attempts = attempts ∧ later.Silent

/-! ## One mark at a time -/

/-- What may come after a past. -/
inductive Follows (limit : Nat) (past : Chronicle) : Mark → Prop where
  | accepted {restart : Bool} (settled : past.owesVerdict = false) :
      Follows limit past (.accepted restart)
  | retried (settled : past.owesVerdict = false) : Follows limit past .retried
  | resigned (settled : past.owesVerdict = false) : Follows limit past .resigned
  | opened (live : past.isOver = false) (settled : past.owesVerdict = false)
      (down : past.isUp = false) : Follows limit past (.told .opened)
  | message {message : Inbound} (live : past.isOver = false) (up : past.isUp = true) :
      Follows limit past (.told (.message message))
  | superseded (live : past.isOver = false) (up : past.isUp = true) :
      Follows limit past (.told .superseded)
  | disconnected {error : Option Error} (live : past.isOver = false) (up : past.isUp = true) :
      Follows limit past (.told (.disconnected error))
  | reconnecting (live : past.isOver = false) (due : past.admitsVerdict = true)
      (left : past.attempts < limit) :
      Follows limit past (.told (.reconnecting (past.attempts + 1) limit))
  | linkLost (live : past.isOver = false) (due : past.admitsVerdict = true)
      (spent : past.attempts = limit) : Follows limit past (.told (.linkLost limit))

/-- Every mark may come after its past. -/
def Chain (limit : Nat) : Chronicle → Prop
  | [] => True
  | mark :: past => Follows limit past mark ∧ Chain limit past

variable {limit : Nat} {chronicle later past : Chronicle}

theorem Chain.tail (chain : Chain limit (later ++ past)) : Chain limit past := by
  induction later with
  | nil => exact chain
  | cons mark later ih => exact ih chain.2

theorem Chain.follows {mark : Mark} (chain : Chain limit (later ++ mark :: past)) :
    Follows limit past mark := chain.tail.1

theorem Follows.live {notice : Notice} (follows : Follows limit past (.told notice)) :
    past.isOver = false := by
  cases follows <;> assumption

/-- A chronicle that is over stays so until another order to connect is accepted. -/
theorem Chain.isOver (chain : Chain limit (later ++ past)) (finished : past.isOver = true)
    (idle : ∀ restart, .accepted restart ∉ later) : (later ++ past).isOver = true := by
  induction later with
  | nil => exact finished
  | cons mark later ih =>
    have still := ih chain.2 fun restart member => idle restart (.tail _ member)
    cases mark with
    | accepted restart => exact absurd (.head _) (idle restart)
    | retried | resigned => exact still
    | told notice => exact absurd still (by simpa using chain.1.live)

theorem Chain.silent (chain : Chain limit (later ++ past)) (finished : past.isOver = true) :
    Silent later := by
  rintro after notice before rfl
  rw [List.append_assoc, List.cons_append] at chain
  have live := chain.follows.live
  apply Classical.byContradiction
  intro idle
  rw [chain.tail.2.isOver finished fun restart member => idle ⟨restart, member⟩] at live
  cases live

/-- After the end of a link that nobody has ended on purpose there is a verdict, and no second
one. -/
theorem Chain.verdict {error : Option Error}
    (chain : Chain limit (later ++ .told (.disconnected error) :: past))
    (settled : owesVerdict (later ++ .told (.disconnected error) :: past) = false)
    (kept : past.isRenounced = false) :
    ∃ rest notice, later = rest ++ [.told notice] ∧ notice.isVerdict = true ∧
      ∀ others next, rest = others ++ [.told next] → next.isVerdict = false := by
  have owed : owesVerdict (.told (.disconnected error) :: past) = true := by
    simp [owesVerdict, kept]
  rcases List.eq_nil_or_concat later with rfl | ⟨rest, mark, rfl⟩
  · rw [List.nil_append, owed] at settled
    cases settled
  · rw [List.concat_eq_append] at chain ⊢
    rw [List.append_assoc, List.cons_append, List.nil_append] at chain
    -- What follows a notice that owes a verdict can only be one.
    obtain ⟨notice, rfl, pronounced⟩ : ∃ notice, mark = .told notice ∧ notice.isVerdict = true := by
      cases chain.follows with
      | accepted clear | retried clear | resigned clear =>
        rw [owed] at clear
        cases clear
      | opened live clear =>
        rw [owed] at clear
        cases clear
      | message live up | superseded live up | disconnected live up => cases up
      | reconnecting | linkLost => exact ⟨_, rfl, rfl⟩
    refine ⟨rest, notice, rfl, pronounced, ?_⟩
    rintro others next rfl
    rw [List.append_assoc, List.cons_append, List.nil_append] at chain
    cases chain.follows with
    | reconnecting live due | linkLost live due => cases notice <;> cases pronounced <;> cases due
    | _ => rfl

/-- **A chain that owes no verdict is orderly.** -/
theorem Chain.orderly (chain : Chain limit chronicle) (settled : chronicle.owesVerdict = false) :
    Orderly limit chronicle where
  opened := by
    rintro later past rfl
    cases chain.follows
    assumption
  disconnected := by
    rintro later past error rfl
    cases chain.follows
    assumption
  message := by
    rintro later past message rfl
    cases chain.follows
    assumption
  superseded := by
    rintro later past rfl
    cases chain.follows
    assumption
  verdict := by
    rintro later past error rfl kept
    exact chain.verdict settled kept
  renounced := by
    rintro later past error rfl given
    exact chain.silent given
  reconnecting := by
    rintro later past attempt most rfl
    cases chain.follows with
    | reconnecting live due left => exact ⟨rfl, left, rfl⟩
  linkLost := by
    rintro later past attempts rfl
    cases chain.follows with
    | linkLost live due spent => exact ⟨rfl, spent, chain.silent rfl⟩

end Chronicle
end Lookout
