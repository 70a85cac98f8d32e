import Mathlib.Data.List.Perm.Lattice
import Lookout.System.Client
import Lookout.Proofs.Stream.Sessions

/-!
# Streams and their frame loops

A frame loop only looks whether its session has been revoked, and whether the stream that it finds
on its channel has been.  That this is enough is due to how sessions are numbered and revoked:
every session that was started either runs or has been revoked, and the loops that have not been
revoked belong, one by one, to the sessions that run (`Attended`).  Every operation on the table
keeps it so.

## Main definitions

* `StreamTable.served` — the sessions of the loops that are to go on.
* `Attended` — the loops fit the table.
-/

namespace Lookout

/-- The session that a loop displays. -/
def FrameLoop.seat (l : FrameLoop) : Seat := (l.channel, l.session)

/-- The sessions of the loops that have not been revoked. -/
def StreamTable.served (t : StreamTable) (loops : List FrameLoop) : List Seat :=
  (loops.map FrameLoop.seat).filter (·.2 ∉ t.revoked)

/-- The frame loops fit the table. -/
structure Attended (t : StreamTable) (loops : List FrameLoop) (sessions : Nat) : Prop where
  distinct : t.Distinct
  /-- each session that was started runs, or has been revoked, and not both -/
  sessions_perm : (t.running.map (·.2) ++ t.revoked).Perm (List.range sessions)
  loops_perm : (t.served loops).Perm t.running

theorem attended_empty (alignment : Alignment) : Attended (.empty alignment) [] 0 where
  distinct := List.nodup_nil
  sessions_perm := .refl _
  loops_perm := .refl _

theorem System.insertLoop_perm (l : FrameLoop) (loops : List FrameLoop) :
    (System.insertLoop l loops).Perm (l :: loops) := by
  induction loops with
  | nil => exact .refl _
  | cons other rest ih =>
    simp only [System.insertLoop]
    split
    · exact .refl _
    · exact (ih.cons other).trans (.swap l other rest)

namespace Attended

variable {t t' : StreamTable} {loops loops' : List FrameLoop} {sessions : Nat}

/-! ## What follows for a loop and for a stream -/

section
variable (attended : Attended t loops sessions)
include attended

theorem nodup_sessions : (t.running.map (·.2) ++ t.revoked).Nodup :=
  attended.sessions_perm.nodup_iff.2 List.nodup_range

theorem eq_of_session {seat other : Seat} (member : seat ∈ t.running) (among : other ∈ t.running)
    (same : other.2 = seat.2) : other = seat :=
  List.inj_on_of_nodup_map (List.nodup_append.1 attended.nodup_sessions).1 among member same

theorem lt_sessions {session : SessionId} (ended : session ∈ t.revoked) : session < sessions :=
  List.mem_range.1 (attended.sessions_perm.subset (List.mem_append_right _ ended))

/-- A loop that has not been revoked finds its own session. -/
theorem find?_of_live {l : FrameLoop} (member : l ∈ loops) (live : l.session ∉ t.revoked) :
    ∃ stream, t.find? l.channel = some stream ∧ stream.seat = l.seat := by
  have serves : l.seat ∈ t.served loops :=
    List.mem_filter.2 ⟨List.mem_map_of_mem member, decide_eq_true live⟩
  obtain ⟨stream, among, own⟩ := List.mem_map.1 (attended.loops_perm.subset serves)
  have channel : stream.channel = l.channel := congrArg Prod.fst own
  exact ⟨stream, channel ▸ attended.distinct.find?_eq among, own⟩

/-- Every stream has a loop, and that loop goes on. -/
theorem exists_loop {stream : Stream} (member : stream ∈ t.streams) :
    ∃ l ∈ loops, l.seat = stream.seat ∧ l.session ∉ t.revoked := by
  have runs : stream.seat ∈ t.running := List.mem_map_of_mem member
  have served := List.mem_filter.1 (attended.loops_perm.mem_iff.2 runs)
  obtain ⟨l, among, own⟩ := List.mem_map.1 served.1
  refine ⟨l, among, own, ?_⟩
  have session : l.session = stream.seat.2 := congrArg Prod.snd own
  simpa [session] using served.2

/-- No channel has two loops that go on. -/
theorem eq_of_channel {l other : FrameLoop} (member : l ∈ loops) (among : other ∈ loops)
    (live : l.session ∉ t.revoked) (goes_on : other.session ∉ t.revoked)
    (same : other.channel = l.channel) : other = l := by
  have distinct :
      (((loops.filter (·.session ∉ t.revoked)).map FrameLoop.seat).map (·.1)).Nodup := by
    have served := attended.loops_perm.map (·.1)
    rw [StreamTable.served, List.filter_map] at served
    exact served.nodup_iff.2 attended.distinct
  rw [List.map_map] at distinct
  exact List.inj_on_of_nodup_map distinct (List.mem_filter.2 ⟨among, by simpa using goes_on⟩)
    (List.mem_filter.2 ⟨member, by simpa using live⟩) same

/-! ## What keeps the loops fitting -/

/-- Sessions and loops only change inside. -/
theorem tended (running_eq : t'.running = t.running) (revoked_eq : t'.revoked = t.revoked)
    (loops_eq : loops'.map FrameLoop.seat = loops.map FrameLoop.seat) :
    Attended t' loops' sessions where
  distinct := by
    rw [StreamTable.Distinct, running_eq]
    exact attended.distinct
  sessions_perm := by
    rw [running_eq, revoked_eq]
    exact attended.sessions_perm
  loops_perm := by
    rw [StreamTable.served, running_eq, revoked_eq, loops_eq]
    exact attended.loops_perm

/-- A loop that has been revoked ends. -/
theorem ended {session : SessionId} (revoked : session ∈ t.revoked) :
    Attended t (loops.filter (·.session != session)) sessions where
  distinct := attended.distinct
  sessions_perm := attended.sessions_perm
  loops_perm := by
    have same : t.served (loops.filter (·.session != session)) = t.served loops := by
      rw [StreamTable.served, StreamTable.served, List.filter_map, List.filter_filter,
        List.filter_map]
      congr 1
      refine List.filter_congr fun l _ => ?_
      by_cases own : l.session = session
      · simp [FrameLoop.seat, own, revoked]
      · simp [own]
    rw [same]
    exact attended.loops_perm

/-- Some sessions are stopped, and their loops with them. -/
theorem stopped {p : Seat → Bool} (running_eq : t'.running = t.running.filter fun seat => !p seat)
    (revoked_eq : t'.revoked = (t.running.filter p).map (·.2) ++ t.revoked) :
    Attended t' loops sessions where
  distinct := by
    rw [StreamTable.Distinct, running_eq]
    exact (List.filter_sublist.map _).nodup attended.distinct
  sessions_perm := by
    rw [running_eq, revoked_eq, ← List.append_assoc, ← List.map_append]
    exact (((List.perm_append_comm.trans (List.filter_append_perm p t.running)).map _).append_right
      _).trans attended.sessions_perm
  loops_perm := by
    -- Two sessions never have one number, so a loop is told by its number that it is stopped.
    have goes (seat : Seat) (member : seat ∈ t.running) :
        seat.2 ∈ (t.running.filter p).map (·.2) ↔ p seat = true := by
      refine ⟨fun among => ?_, fun gone => List.mem_map_of_mem (List.mem_filter.2 ⟨member, gone⟩)⟩
      obtain ⟨other, gone, same⟩ := List.mem_map.1 among
      obtain ⟨among, gone⟩ := List.mem_filter.1 gone
      rwa [attended.eq_of_session member among same] at gone
    have served : t'.served loops =
        (t.served loops).filter (·.2 ∉ (t.running.filter p).map (·.2)) := by
      rw [StreamTable.served, StreamTable.served, List.filter_filter, revoked_eq]
      refine List.filter_congr fun seat _ => ?_
      simp only [List.mem_append, not_or, Bool.decide_and]
    rw [served, running_eq]
    refine (attended.loops_perm.filter _).trans (.of_eq (List.filter_congr fun seat member => ?_))
    simp only [goes seat member, Bool.not_eq_true, Bool.decide_eq_false]

/-- A session is started with a loop of its own. -/
theorem started {l : FrameLoop} (fresh : l.session = sessions)
    (vacant : l.channel ∉ t.running.map (·.1))
    (running_perm : t'.running.Perm (l.seat :: t.running))
    (revoked_eq : t'.revoked = t.revoked) (loops_perm : loops'.Perm (l :: loops)) :
    Attended t' loops' (sessions + 1) where
  distinct := (running_perm.map _).nodup_iff.2 (List.nodup_cons.2 ⟨vacant, attended.distinct⟩)
  sessions_perm := by
    have number : l.seat.2 = sessions := fresh
    have ids := (running_perm.map (·.2)).append_right t.revoked
    rw [revoked_eq, List.range_succ]
    refine ids.trans ?_
    rw [List.map_cons, List.cons_append, number]
    exact (attended.sessions_perm.cons sessions).trans (List.perm_append_singleton _ _).symm
  loops_perm := by
    have live : l.seat.2 ∉ t.revoked := fun ended => (attended.lt_sessions ended).ne fresh
    have served : (t.served (l :: loops)) = l.seat :: t.served loops := by
      rw [StreamTable.served, StreamTable.served, List.map_cons,
        List.filter_cons_of_pos (by simpa using live)]
    have all : (t'.served loops').Perm (t.served (l :: loops)) := by
      rw [StreamTable.served, StreamTable.served, revoked_eq]
      exact (loops_perm.map _).filter _
    rw [served] at all
    exact all.trans ((attended.loops_perm.cons _).trans running_perm.symm)

/-! ## The operations on a table -/

theorem update {s s' : Stream} {channel : ChannelId} (found : t.find? channel = some s)
    (own : s'.seat = s.seat) : Attended (t.update s') loops sessions :=
  attended.tended (StreamTable.running_update attended.distinct found own) rfl rfl

theorem takeStats : Attended t.takeStats.1 loops sessions :=
  attended.tended t.running_takeStats rfl rfl

theorem deactivate (channel : ChannelId) : Attended (t.deactivate channel).1 loops sessions :=
  attended.stopped (t.running_deactivate channel)
    (StreamTable.revoked_deactivate attended.distinct channel)

theorem deactivateAll : Attended t.deactivateAll.1 loops sessions := by
  refine attended.stopped (p := fun _ => true) ?_ ?_
  · simp [StreamTable.deactivateAll, StreamTable.running]
  · simp [StreamTable.deactivateAll, StreamTable.running, Stream.seat, Function.comp_def]

theorem activate (channel : ChannelId) (player : Player) (period due : Nanoseconds) :
    Attended (t.activate channel sessions player).1
      (System.insertLoop ⟨channel, sessions, period, due⟩ loops) (sessions + 1) := by
  refine (attended.deactivate channel).started (l := ⟨channel, sessions, period, due⟩) rfl ?_
    (t.running_activate channel sessions player) rfl (System.insertLoop_perm _ loops)
  rw [StreamTable.running_deactivate]
  simp

end

end Attended
end Lookout
