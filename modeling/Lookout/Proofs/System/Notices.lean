import Lookout.Proofs.System.Sockets

/-!
# What the application is told

The link keeps the protocol of its notices if no message reaches it before it is open, and the
sockets of a console see to that.  So what the application is told on a run, in whichever order the
tasks take turns, is a word of the protocol.
-/

namespace Lookout

/-- The notice of a mark. -/
def Mark.notice? : Mark → Option Notice
  | .told notice => some notice
  | .accepted _ | .retried | .resigned => none

theorem filterMap_told (turn : Turn) :
    turn.told.filterMap Mark.notice? = (turn.effects.filterMap Effect.linkNotice?).reverse := by
  rw [Turn.told, List.filterMap_map]
  exact List.filterMap_some

theorem filterMap_cause (l : Link) (input : Input) :
    (l.cause input).filterMap Mark.notice? = [] := by
  simp only [Link.cause]
  split
  · split <;> rfl
  · rfl
  · split <;> rfl
  · rfl

namespace System

variable {s s' : System} {arrival : Option (Nat × Arrival)}

/-- The link answers while its task runs, and a report that it answers was the oldest one. -/
theorem Stride.taken {input : Input} (stride : Stride s (some input) arrival s') :
    s.driving = true ∧ ∃ rest, input.event?.toList ++ rest = s.transport := by
  cases stride with
  | answered driving taken done => exact ⟨driving, _, taken⟩

/-- The application is told what the turns of the link tell. -/
theorem Stride.notices_eq {input : Option Input} (stride : Stride s input arrival s') :
    s'.linkNotices = (input.elim [] fun input =>
      ((s.link.step s.config s.now input).effects.filterMap Effect.linkNotice?).reverse) ++
        s.linkNotices := by
  cases stride with
  | aside done | shut done => exact done.notices_eq
  | answered driving taken done => exact done.notices_eq
  | did member does => exact does.kept.2.2.2.2
  | came member accepted receives done => exact done.notices_eq
  | stopped shut still quit config silent => exact silent

variable (config : Config) (moves : List Move)

/-- No message reaches the link of a console before it is open. -/
theorem timely_inputs : Link.Timely config (inputs config moves) := by
  induction moves with
  | nil => trivial
  | cons m past ih =>
    have stride := stride_move (after config past) m
    simp only [inputs]
    cases answers : (after config past).input? m with
    | none => exact ih
    | some input =>
      rw [answers] at stride
      obtain ⟨driving, rest, taken⟩ := stride.taken
      have coherent := coherent_after config past driving
      simp only [Option.map_some, Option.toList_some, List.cons_append, List.nil_append]
      refine ⟨?_, ih⟩
      rintro generation message rfl current
      rw [← link_after config past driving] at current ⊢
      obtain ⟨rfl, held⟩ := Link.isCurrent_iff.1 current
      have waiting := coherent.not_connecting taken.symm
      cases state : (after config past).link.state with
      | disconnected => exact absurd state held
      | connecting => exact absurd state waiting
      | opened | closing => simp [Link.isUp, state]

/-- The notices of the chronicle are what the application has been told. -/
theorem notices_chronicle :
    (Link.chronicle config (inputs config moves)).filterMap Mark.notice? =
      (after config moves).linkNotices := by
  induction moves with
  | nil => rfl
  | cons m past ih =>
    have stride := stride_move (after config past) m
    have told := stride.notices_eq
    simp only [inputs]
    cases answers : (after config past).input? m with
    | none =>
      rw [answers] at told
      exact ih.trans told.symm
    | some input =>
      rw [answers] at told stride
      have link := link_after config past stride.taken.1
      rw [config_after, link] at told
      simp only [Option.map_some, Option.toList_some, List.cons_append, List.nil_append,
        Link.chronicle, List.filterMap_append, filterMap_told, filterMap_cause, List.append_nil, ih]
      exact told.symm

/-- **What the application is told about the link is a word of the protocol**, on every run. -/
theorem notices_law :
    (Link.chronicle config (inputs config moves)).filterMap Mark.notice? =
      (after config moves).linkNotices ∧
    (Link.chronicle config (inputs config moves)).Orderly config.connection.reconnectAttempts :=
  ⟨notices_chronicle config moves, Link.orderly_chronicle (timely_inputs config moves)⟩

end System

end Lookout
