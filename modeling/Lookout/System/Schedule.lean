import Lookout.System.Step

/-!
# Running the console

Between two moments everything happens that can happen: frames before orders, orders before
reports, reports before timers, timers before sockets.  Then time moves on, to the next moment at
which something is due.

## Main definitions

* `System.next?` — the action to do now.
* `System.settle` — does everything that can be done now.
* `System.advance` — lets time pass.
-/

namespace Lookout

namespace System

/-- The timers, in the order in which they are answered. -/
def timers : List Timer := [.heartbeat, .reconnect, .sendRetry, .closeGrace, .metrics]

/-- The action to do now, if there is anything to do. -/
def next? (s : System) : Option Action :=
  ((s.loops.find? s.canTick).map fun l => .tick l.session)
    <|> ([.stop, .command, .transport].find? fun action => s.enabled action)
    <|> ((timers.find? fun timer => s.enabled (.timer timer)).map Action.timer)
    <|> ((s.sockets.find? s.canPoll).map fun k => .poll k.generation)
    <|> (if s.canFinish then some .finish else none)

/-- Does at most so many actions. -/
def run : Nat → System → System
  | 0, s => s
  | steps + 1, s =>
    match s.next? with
    | none => s
    | some action => run steps (s.act action)

/-- How many frames of a loop are due. -/
def framesDue (s : System) (l : FrameLoop) : Nat :=
  if l.period = 0 then 0 else (s.now * nanosPerMilli + l.period - l.due) / l.period

/-- A bound on how many actions can follow without time passing: an order leads to a few actions,
so does a report and every message in a queue, and every frame that is due to one. -/
def workload (s : System) : Nat :=
  64 + 16 * s.commands.length + 8 * s.transport.length + 4 * s.link.pending.length +
    s.sockets.foldl (fun n k => n + 8 + k.outbound.length + 4 * k.inbound.length) 0 +
    s.loops.foldl (fun n l => n + 4 + s.framesDue l) 0

/-- Does everything that can be done now. -/
def settle (s : System) : System := s.run s.workload

/-- The first millisecond that is not before a time. -/
def ceilMillis (time : Nanoseconds) : Millis := (time + nanosPerMilli - 1) / nanosPerMilli

/-- When a socket waits for the device, and until when. -/
def dialingUntil (k : Socket) : Option Millis :=
  match k.phase with
  | .dialing _ due => some due
  | _ => none

/-- All times at which something is due. -/
def dueTimes (s : System) : List Millis :=
  (if s.driving then timers.filterMap s.link.deadline else []) ++
    s.sockets.filterMap dialingUntil ++
    s.loops.map fun l => ceilMillis l.due

/-- How long until something is due, if that is within a span of time. -/
def untilDue? (s : System) (span : Millis) : Option Millis :=
  ((s.dueTimes.map (· - s.now)).filter fun wait => 0 < wait && wait ≤ span).min?

/-- A wait that is found is one, and within the span. -/
theorem untilDue?_bounds {s : System} {span wait : Millis} (h : s.untilDue? span = some wait) :
    0 < wait ∧ wait ≤ span := by
  have hmem := List.min?_mem h
  simpa using (List.mem_filter.1 hmem).2

/-- Lets time pass, and everything happen on its way. -/
def advance (s : System) (span : Millis) : System :=
  match _h : s.untilDue? span with
  | none => { s with now := s.now + span }.settle
  | some wait => advance ({ s with now := s.now + wait }.settle) (span - wait)
termination_by span
decreasing_by
  exact Nat.sub_lt_of_pos_le (untilDue?_bounds _h).1 (untilDue?_bounds _h).2

end System

end Lookout
