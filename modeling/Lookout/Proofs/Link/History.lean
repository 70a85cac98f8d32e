import Lookout.Proofs.Link.Course

/-!
# Histories of a link

A history is everything that a link has had to answer, with the time of each input, latest first.
Nothing is asked of it: orders, reports of any generation and timers come in any order, and a timer
that is not armed is not answered.  `after` is the link that a history leads to, and
`sound_after` says that it is sound.

## Main definitions

* `History`, `after`.
* `effects` — everything the link has done, latest first.
* `dials` — the attempts among it.
-/

namespace Lookout
namespace Link

/-- What a link has answered and when, latest first. -/
abbrev History := List (Millis × Input)

/-- The link that a history leads to. -/
def after (config : Config) : History → Link
  | [] => new config
  | (now, input) :: past => ((after config past).step config now input).link

/-- The effects of a history, latest first. -/
def effects (config : Config) : History → List Effect
  | [] => []
  | (now, input) :: past =>
    ((after config past).step config now input).effects.reverse ++ effects config past

/-- The attempt that an effect starts, with its address. -/
def dial? : Effect → Option (Nat × String)
  | .dial generation url => some (generation, url)
  | _ => none

/-- The attempts of a history with their addresses, latest first. -/
def dials (config : Config) (history : History) : List (Nat × String) :=
  (effects config history).filterMap dial?

variable {config : Config}

/-- **Every link that can be reached is sound.** -/
theorem sound_after (history : History) : Sound config (after config history) := by
  induction history with
  | nil => exact sound_new config
  | cons turn past ih => exact (course_step ih turn.1 turn.2).sound ih

/-- The course of the next turn. -/
theorem course_after (past : History) (now : Millis) (input : Input) :
    Course config now (after config past) input ((after config past).step config now input) :=
  course_step (sound_after past) now input

end Link
end Lookout
