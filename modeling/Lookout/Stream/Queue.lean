/-!
# Results that wait for their frame

Results arrive when the algorithms of the device have finished, not when their frame is shown.
They wait in the order of arrival, which need not be the order of their times.  For every
displayed frame at most one is taken out: the one nearest to the frame's capture time among the
two around it, or the newest if all are older.

## Main definitions

* `Timed` — items with a time.
* `MatchQueue` with `push`, `select?`, `align`.
-/

namespace Lookout

/-- Items with a time in microseconds. -/
class Timed (α : Type) where
  time : α → Nat

/-- Items in the order of arrival, and how they are matched. -/
structure MatchQueue (α : Type) where
  entries : List α
  /-- greatest distance between an item and the time it is matched with -/
  window : Nat
  /-- length above which stale items are swept -/
  threshold : Nat

namespace MatchQueue

variable {α : Type} [Timed α]

/-- A queue that holds nothing. -/
def empty (window threshold : Nat) : MatchQueue α := ⟨[], window, threshold⟩

/-- Adds an item behind all others. -/
def push (q : MatchQueue α) (item : α) : MatchQueue α := { q with entries := q.entries ++ [item] }

/-- Forgets all items. -/
def clear (q : MatchQueue α) : MatchQueue α := { q with entries := [] }

/-- A position, if the distance there is within the window. -/
def within (q : MatchQueue α) (distance position : Nat) : Option Nat :=
  if distance ≤ q.window then some position else none

/-- The items in front of the first one that is not earlier than `target`. -/
def earlier (q : MatchQueue α) (target : Nat) : List α :=
  q.entries.takeWhile fun item => Timed.time item < target

/-- The position of the item to show at `target`.  At the first item that is not earlier, it or the
item in front of it is selected, whichever is nearer, and the one in front if both are equally
near; it must be within the window.  When all are earlier, the newest arrival is selected. -/
def select? (q : MatchQueue α) (target : Nat) : Option Nat :=
  let before := q.earlier target
  match q.entries.drop before.length, before.getLast? with
  | [], none => none
  | [], some _ => some (before.length - 1)
  | next :: _, none => q.within (Timed.time next - target) 0
  | next :: _, some previous =>
    let ahead := Timed.time next - target
    let behind := target - Timed.time previous
    if ahead < behind then q.within ahead before.length else q.within behind (before.length - 1)

/-- Drops what is more than a window older than `target`, if too much waits. -/
def sweep (q : MatchQueue α) (target : Nat) : MatchQueue α :=
  if q.threshold < q.entries.length then
    { q with entries := q.entries.filter fun item => target - Timed.time item ≤ q.window }
  else q

/-- Takes out the item to show at `target`, and then sweeps. -/
def align (q : MatchQueue α) (target : Nat) : MatchQueue α × Option α :=
  match q.select? target with
  | none => (q.sweep target, none)
  | some position =>
    (({ q with entries := q.entries.eraseIdx position }).sweep target, q.entries[position]?)

end MatchQueue

end Lookout
