import Lookout.Proofs.Stream.TableRun
import Lookout.Proofs.System.Display

/-!
# Starting streams on a client that has been shut down

A client that starts streams first puts them into the table, one after another, and then orders
the message that tells the device.  Only the order can fail, and it fails when the client has been
shut down.  What has been done up to there stays done: the call fails without an effect on the
link, but the streams that it names have been started (`starting_law`).  The decoder of every stream
that they replace has been destroyed: one for each start, except for the first start on a channel
that was free (`Started.told`).  The frame loops have been revoked from the start, so they end in
their first step and display nothing.

## Main definitions

* `System.Started` — a console in which streams have been started, one after another.
-/

namespace Lookout
namespace System

/-- A console in which streams have been started on some channels, one after another. -/
structure Started (s : System) (bindings : List (ChannelId × Player)) (s' : System) : Prop where
  rest_eq : s' = { s with
    streams := s'.streams, loops := s'.loops, sessions := s'.sessions, trace := s'.trace }
  sessions_eq : s'.sessions = s.sessions + bindings.length
  alignment_eq : s'.streams.alignment = s.streams.alignment
  /-- the streams of other channels run on as they are -/
  apart : ∀ channel, channel ∉ bindings.map (·.1) →
    s'.streams.find? channel = s.streams.find? channel
  /-- on a channel that is named the last stream started there runs, and it has seen nothing -/
  fresh : ∀ channel ∈ bindings.map (·.1), ∃ earlier player later,
    bindings = earlier ++ (channel, player) :: later ∧ channel ∉ later.map (·.1) ∧
    s'.streams.find? channel =
      some (.start s.streams.alignment channel (s.sessions + earlier.length) player)
  revoked_subset : s.streams.revoked ⊆ s'.streams.revoked
  /-- what ran on a channel that is named has ended -/
  ended : ∀ channel ∈ bindings.map (·.1), ∀ stream, s.streams.find? channel = some stream →
    stream.session ∈ s'.streams.revoked
  /-- each start on a channel destroys the decoder of what runs there, which is nothing only at the
  first start on a channel that was free; nobody else is told anything -/
  told : ∃ destroyed : List ChannelId,
    s'.trace = destroyed.map (fun channel => .stream s.now (.destroy channel)) ++ s.trace ∧
    (∀ channel, channel ∉ bindings.map (·.1) → channel ∉ destroyed) ∧
    ∀ channel ∈ bindings.map (·.1), destroyed.count channel + 1 =
      (bindings.map (·.1)).count channel + (s.streams.find? channel).toList.length

theorem Started.refl (s : System) : Started s [] s where
  rest_eq := rfl
  sessions_eq := rfl
  alignment_eq := rfl
  apart _ _ := rfl
  fresh := nofun
  revoked_subset _ member := member
  ended := nofun
  told := ⟨[], rfl, fun _ _ => List.not_mem_nil, nofun⟩

/-- On a channel that is named a stream runs afterwards. -/
theorem Started.occupied {s s' : System} {bindings : List (ChannelId × Player)}
    (started : Started s bindings s') {channel : ChannelId} (named : channel ∈ bindings.map (·.1)) :
    (s'.streams.find? channel).toList.length = 1 := by
  obtain ⟨_, _, _, -, -, found⟩ := started.fresh channel named
  rw [found]
  rfl

theorem Started.trans {s s' s'' : System} {bindings later : List (ChannelId × Player)}
    (first : Started s bindings s') (second : Started s' later s'') :
    Started s (bindings ++ later) s'' where
  rest_eq := by
    rw [second.rest_eq, first.rest_eq]
  sessions_eq := by
    rw [second.sessions_eq, first.sessions_eq, List.length_append, Nat.add_assoc]
  alignment_eq := second.alignment_eq.trans first.alignment_eq
  apart channel other := by
    rw [List.map_append, List.mem_append, not_or] at other
    exact (second.apart channel other.2).trans (first.apart channel other.1)
  fresh channel named := by
    by_cases again : channel ∈ later.map (·.1)
    · obtain ⟨earlier, player, last, rfl, final, found⟩ := second.fresh channel again
      refine ⟨bindings ++ earlier, player, last, (List.append_assoc ..).symm, final, ?_⟩
      rw [found, first.alignment_eq, first.sessions_eq, List.length_append, Nat.add_assoc]
    · rw [List.map_append, List.mem_append] at named
      obtain ⟨earlier, player, last, rfl, final, found⟩ :=
        first.fresh channel (named.resolve_right again)
      refine ⟨earlier, player, last ++ later, by simp, ?_, ?_⟩
      · rw [List.map_append, List.mem_append]
        exact not_or.2 ⟨final, again⟩
      · exact (second.apart channel again).trans found
  revoked_subset _ member := second.revoked_subset (first.revoked_subset member)
  ended channel named stream found := by
    by_cases before : channel ∈ bindings.map (·.1)
    · exact second.revoked_subset (first.ended channel before stream found)
    · rw [List.map_append, List.mem_append] at named
      rw [← first.apart channel before] at found
      exact second.ended channel (named.resolve_left before) stream found
  told := by
    obtain ⟨destroyed, trace, spared, balance⟩ := first.told
    obtain ⟨destroyed', trace', spared', balance'⟩ := second.told
    have now : s'.now = s.now := by rw [first.rest_eq]
    refine ⟨destroyed' ++ destroyed, ?_, ?_, ?_⟩
    · rw [trace', trace, now, List.map_append, List.append_assoc]
    · intro channel other
      rw [List.map_append, List.mem_append, not_or] at other
      rw [List.mem_append, not_or]
      exact ⟨spared' channel other.2, spared channel other.1⟩
    · intro channel named
      rw [List.map_append, List.count_append, List.count_append]
      by_cases before : channel ∈ bindings.map (·.1)
      · have own := balance channel before
        by_cases again : channel ∈ later.map (·.1)
        · -- the later starts find what the earlier ones have put there
          have next := balance' channel again
          rw [first.occupied before] at next
          omega
        · rw [List.count_eq_zero.2 again, List.count_eq_zero.2 (spared' channel again)]
          omega
      · rw [List.map_append, List.mem_append] at named
        have next := balance' channel (named.resolve_left before)
        rw [first.apart channel before] at next
        rw [List.count_eq_zero.2 before, List.count_eq_zero.2 (spared channel before)]
        omega

theorem started_startStream (period : Nanoseconds) (s : System) (channel : ChannelId)
    (player : Player) :
    Started s [(channel, player)] (startStream period s (channel, player)) := by
  have found (other : ChannelId) := s.streams.find?_activate channel s.sessions player other
  have revoked : (s.streams.activate channel s.sessions player).1.revoked =
      (s.streams.session? channel).toList ++ s.streams.revoked :=
    s.streams.revoked_deactivate_eq channel
  have calls : (s.streams.activate channel s.sessions player).2 =
      (s.streams.find? channel).toList.map fun _ => .destroy channel :=
    s.streams.told_deactivate channel
  simp only [startStream, trace_observeCalls]
  refine ⟨rfl, rfl, StreamTable.alignment_activate .., ?_, ?_, ?_, ?_, ?_⟩
  · intro other apart
    rw [List.map_singleton, List.mem_singleton] at apart
    exact (found other).trans (if_neg (Ne.symm apart))
  · intro other named
    rw [List.map_singleton, List.mem_singleton] at named
    subst named
    exact ⟨[], player, [], rfl, List.not_mem_nil, (found other).trans (if_pos rfl)⟩
  · intro session member
    simp only [revoked]
    exact List.mem_append_right _ member
  · intro other named stream running
    rw [List.map_singleton, List.mem_singleton] at named
    subst named
    simp [revoked, StreamTable.session?, running]
  · refine ⟨(s.streams.find? channel).toList.map fun _ => channel, ?_, ?_, ?_⟩
    · rw [calls]
      cases s.streams.find? channel <;> rfl
    · intro other apart destroyed
      obtain ⟨_, -, rfl⟩ := List.mem_map.1 destroyed
      exact apart (.head _)
    · intro other named
      rw [List.map_singleton, List.mem_singleton] at named
      subst named
      cases s.streams.find? other <;> simp

theorem started_foldl (period : Nanoseconds) (s : System) (bindings : List (ChannelId × Player)) :
    Started s bindings (bindings.foldl (startStream period) s) := by
  induction bindings generalizing s with
  | nil => exact .refl s
  | cons binding rest ih =>
    have first := started_startStream period s binding.1 binding.2
    exact first.trans (ih (startStream period s binding))

/-- Streams are started in any case; then a client that has been shut down orders nothing. -/
theorem startStreams_of_shutDown {s : System} {period : Nanoseconds}
    (paced : s.config.alignment.frameInterval? = some period) (shut : s.shutDown = true)
    (bindings : List (ChannelId × Player)) :
    s.startStreams bindings = some (bindings.foldl (startStream period) s, .error .closed) := by
  have still : (bindings.foldl (startStream period) s).shutDown = true := by
    rw [(started_foldl period s bindings).rest_eq]
    exact shut
  rw [startStreams, paced, Option.map_some, send, order, if_pos still]

/-- The loops of a client that has been shut down end in their next step, whatever they display. -/
theorem tickLoop_of_shutDown {s : System} (shut : s.shutDown = true) (l : FrameLoop) :
    s.canTick l = true ∧ s.tickLoop l = s.endLoop l := by
  have revoked : s.revoked l.session = true := by simp [System.revoked, shut]
  exact ⟨by simp [canTick, revoked], by rw [tickLoop, if_pos revoked]⟩

/-- A stream runs on channel 1 when the client is shut down. -/
def stoppedEarly : List Move := [.shutDown, .startStreams [(1, {})]]

end System
end Lookout
