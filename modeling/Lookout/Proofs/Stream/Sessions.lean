import Mathlib.Data.List.Flatten
import Mathlib.Data.List.Nodup
import Mathlib.Data.List.Perm.Subperm
import Mathlib.Data.Prod.Basic
import Lookout.Proofs.Stream.Lookup
import Lookout.Proofs.Stream.QueueRun

/-!
# Sessions and the results that wait in them

Who asks which session a result belongs to sees three things of a table: the sessions that run, the
sessions that have ended, and the results that wait.  These lemmas say what the operations on a
table do to the three of them.

## Main definitions

* `Seat` — a session together with its channel.
* `StreamTable.running`, `StreamTable.waiting` — the sessions that run, and the results that wait.
* `StreamTable.Split` — a table around one of its streams.
-/

namespace Lookout

/-- A session together with its channel. -/
abbrev Seat := ChannelId × SessionId

namespace Stream

/-- The session that a stream is. -/
def seat (s : Stream) : Seat := (s.channel, s.session)

/-- The results that wait in a stream. -/
def waiting (s : Stream) : List (Seat × Result) := s.queue.entries.map (s.seat, ·)

variable (s : Stream)

@[simp] theorem seat_latchEpoch (time : Timestamp) : (s.latchEpoch time).1.seat = s.seat := by
  simp only [latchEpoch]
  split <;> rfl

@[simp] theorem channel_latchEpoch (time : Timestamp) :
    (s.latchEpoch time).1.channel = s.channel := congrArg Prod.fst (s.seat_latchEpoch time)

@[simp] theorem waiting_latchEpoch (time : Timestamp) :
    (s.latchEpoch time).1.waiting = s.waiting := by
  simp only [latchEpoch]
  split <;> rfl

@[simp] theorem seat_render (p : Playback) : (s.render p).1.seat = s.seat := by
  simp only [render]
  split <;> rfl

theorem waiting_pushResult (r : Result) :
    (s.pushResult r).waiting.Perm ((s.seat, r) :: s.waiting) := by
  simp only [waiting, pushResult, MatchQueue.push, List.map_append]
  exact List.perm_append_singleton _ _

/-- A result that is shown has waited, and waits no longer. -/
theorem waiting_render (p : Playback) :
    ((s.render p).2.1.toList.map (s.seat, ·) ++ (s.render p).1.waiting).Subperm s.waiting := by
  rw [waiting, seat_render, waiting, ← List.map_append]
  simp only [render]
  split
  · exact List.Subperm.refl _
  · next target _ =>
    have left := (MatchQueue.entries_align_sublist s.queue target).subperm
    exact (((List.subperm_append_left _).2 left).trans
      (pick_align s.queue target).perm.subperm).map (Prod.mk_right_injective s.seat)

/-- Nothing is shown before the first frame has arrived. -/
theorem epoch_of_render {p : Playback} {s : Stream} {r : Result}
    (shown : (s.render p).2.1 = some r) : s.epoch.isSome := by
  cases latched : s.epoch with
  | some time => rfl
  | none =>
    have aimless : (s.player.advance p s.rate none).target = none := rfl
    simp [render, latched, aimless] at shown

end Stream

namespace StreamTable

/-- The sessions that run. -/
def running (t : StreamTable) : List Seat := t.streams.map Stream.seat

/-- The results that wait, with the session in which they wait. -/
def waiting (t : StreamTable) : List (Seat × Result) := t.streams.flatMap Stream.waiting

/-- No channel has two streams. -/
def Distinct (t : StreamTable) : Prop := (t.running.map (·.1)).Nodup

/-- A table around one of its streams, the only one on its channel. -/
structure Split (t : StreamTable) (s : Stream) (front back : List Stream) : Prop where
  streams_eq : t.streams = front ++ s :: back
  apart : ∀ other ∈ front ++ back, other.channel ≠ s.channel

variable {t : StreamTable} {s s' : Stream} {front back : List Stream} {channel : ChannelId}

theorem Distinct.eq_of_channel (distinct : t.Distinct) (member : s ∈ t.streams)
    (other : s' ∈ t.streams) (same : s'.channel = s.channel) : s' = s := by
  rw [Distinct, running, List.map_map] at distinct
  exact List.inj_on_of_nodup_map distinct other member same

/-- A stream of the table is what is found on its channel. -/
theorem Distinct.find?_eq (distinct : t.Distinct) (member : s ∈ t.streams) :
    t.find? s.channel = some s := by
  cases found : t.find? s.channel with
  | none =>
    rw [find?, List.find?_eq_none] at found
    exact absurd (found s member) (by simp)
  | some other =>
    rw [distinct.eq_of_channel member (mem_of_find? found) (channel_of_find? found)]

theorem exists_split (distinct : t.Distinct) (found : t.find? channel = some s) :
    ∃ front back, t.Split s front back := by
  obtain ⟨front, back, streams_eq⟩ := List.append_of_mem (mem_of_find? found)
  refine ⟨front, back, streams_eq, fun other member same => ?_⟩
  rw [Distinct, running, List.map_map, streams_eq, List.map_append, List.map_cons,
    List.nodup_middle, List.nodup_cons, ← List.map_append] at distinct
  exact distinct.1 (List.mem_map.2 ⟨other, member, same⟩)

namespace Split

theorem update (split : t.Split s front back) (own : s'.channel = s.channel) :
    (t.update s').Split s' front back where
  streams_eq := by
    have kept {others : List Stream} (part : ∀ other ∈ others, other ∈ front ++ back) :
        (others.map fun other => if other.channel == s'.channel then s' else other) = others := by
      refine (List.map_congr_left fun other member => ?_).trans (List.map_id _)
      rw [if_neg (by simpa [own] using split.apart other (part other member)), id]
    rw [StreamTable.update, split.streams_eq, List.map_append, List.map_cons,
      kept fun other member => List.mem_append_left _ member,
      kept fun other member => List.mem_append_right _ member, if_pos (by simp [own])]
  apart := by
    rw [own]
    exact split.apart

theorem running_eq (split : t.Split s front back) :
    t.running = front.map Stream.seat ++ s.seat :: back.map Stream.seat := by
  rw [running, split.streams_eq, List.map_append, List.map_cons]

theorem waiting_perm (split : t.Split s front back) :
    t.waiting.Perm (s.waiting ++ (front ++ back).flatMap Stream.waiting) := by
  rw [waiting, split.streams_eq, ← List.flatMap_cons]
  exact List.perm_middle.flatMap_right _

end Split

/-! ## One stream of many -/

section
variable (distinct : t.Distinct) (found : t.find? channel = some s) (own : s'.seat = s.seat)
include distinct found own

theorem running_update : (t.update s').running = t.running := by
  obtain ⟨front, back, split⟩ := exists_split distinct found
  rw [(split.update (congrArg Prod.fst own)).running_eq, split.running_eq, own]

/-- What waits in the other streams goes on to wait. -/
theorem exists_waiting_update : ∃ rest,
    t.waiting.Perm (s.waiting ++ rest) ∧ (t.update s').waiting.Perm (s'.waiting ++ rest) := by
  obtain ⟨front, back, split⟩ := exists_split distinct found
  exact ⟨_, split.waiting_perm, (split.update (congrArg Prod.fst own)).waiting_perm⟩

theorem waiting_update_of_eq (kept : s'.waiting = s.waiting) :
    (t.update s').waiting.Perm t.waiting := by
  obtain ⟨rest, before, behind⟩ := exists_waiting_update distinct found own
  rw [kept] at behind
  exact behind.trans before.symm

end

section
variable (distinct : t.Distinct) (found : t.find? channel = some s)
include distinct found

theorem waiting_update_pushResult (r : Result) :
    (t.update (s.pushResult r)).waiting.Perm ((s.seat, r) :: t.waiting) := by
  have own : (s.pushResult r).seat = s.seat := rfl
  obtain ⟨rest, before, behind⟩ := exists_waiting_update distinct found own
  exact (behind.trans ((s.waiting_pushResult r).append_right rest)).trans (before.symm.cons _)

theorem waiting_update_render (p : Playback) :
    ((s.render p).2.1.toList.map (s.seat, ·) ++ (t.update (s.render p).1).waiting).Subperm
      t.waiting := by
  obtain ⟨rest, before, behind⟩ := exists_waiting_update distinct found (s.seat_render p)
  refine (behind.append_left _).subperm.trans ?_
  rw [← List.append_assoc]
  exact ((List.subperm_append_right rest).2 (s.waiting_render p)).trans before.symm.subperm

end

/-! ## Starting and stopping -/

theorem streams_deactivate (t : StreamTable) (channel : ChannelId) :
    (t.deactivate channel).1.streams = t.streams.filter (·.channel != channel) := by
  simp only [deactivate]
  cases absent : t.find? channel with
  | some s => rfl
  | none =>
    rw [find?, List.find?_eq_none] at absent
    exact (List.filter_eq_self.2 (by simpa using absent)).symm

theorem running_deactivate (t : StreamTable) (channel : ChannelId) :
    (t.deactivate channel).1.running = t.running.filter (·.1 != channel) := by
  rw [running, running, streams_deactivate, List.filter_map]
  rfl

/-- The session that is stopped is the one that has ended. -/
theorem revoked_deactivate (distinct : t.Distinct) (channel : ChannelId) :
    (t.deactivate channel).1.revoked =
      (t.running.filter (·.1 == channel)).map (·.2) ++ t.revoked := by
  simp only [deactivate]
  cases found : t.find? channel with
  | none =>
    rw [find?, List.find?_eq_none] at found
    have none : t.running.filter (·.1 == channel) = [] := by
      simpa [running, Stream.seat, List.filter_eq_nil_iff] using found
    rw [none]
    rfl
  | some s =>
    obtain ⟨front, back, split⟩ := exists_split distinct found
    have own := channel_of_find? found
    have none {others : List Stream} (part : ∀ other ∈ others, other ∈ front ++ back) :
        (others.map Stream.seat).filter (·.1 == channel) = [] := by
      rw [List.filter_eq_nil_iff]
      intro seat seated
      obtain ⟨other, member, rfl⟩ := List.mem_map.1 seated
      simpa [Stream.seat, own] using split.apart other (part other member)
    rw [split.running_eq, List.filter_append,
      none fun other member => List.mem_append_left _ member,
      List.filter_cons_of_pos (by simp [Stream.seat, own]),
      none fun other member => List.mem_append_right _ member]
    rfl

theorem waiting_deactivate (t : StreamTable) (channel : ChannelId) :
    (t.deactivate channel).1.waiting.Subperm t.waiting := by
  rw [waiting, waiting, streams_deactivate]
  exact (List.filter_sublist.flatMap _).subperm

theorem insertSorted_perm (s : Stream) (streams : List Stream) :
    (insertSorted s streams).Perm (s :: streams) := by
  induction streams with
  | nil => exact .refl _
  | cons other rest ih =>
    simp only [insertSorted]
    split
    · exact .refl _
    · exact (ih.cons other).trans (.swap s other rest)

section
variable (t : StreamTable) (channel : ChannelId) (session : SessionId) (player : Player)

theorem running_activate : (t.activate channel session player).1.running.Perm
    ((channel, session) :: (t.deactivate channel).1.running) :=
  (insertSorted_perm _ _).map _

/-- Nothing waits in a session that has just been started. -/
theorem waiting_activate : (t.activate channel session player).1.waiting.Perm
    (t.deactivate channel).1.waiting :=
  (insertSorted_perm _ _).flatMap_right _

end

theorem running_takeStats (t : StreamTable) : t.takeStats.1.running = t.running := by
  rw [running, running, takeStats, List.map_map]
  rfl

theorem waiting_takeStats (t : StreamTable) : t.takeStats.1.waiting = t.waiting := by
  rw [waiting, waiting, takeStats, List.flatMap_map]
  rfl

end StreamTable
end Lookout
