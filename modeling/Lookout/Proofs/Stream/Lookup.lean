import Lookout.Stream.Table

/-!
# What is found in a table of streams

A table is looked at by channel.  These lemmas say what is found under a channel after each
operation on a table, so that nobody has to look at how the streams are kept.
-/

namespace Lookout
namespace StreamTable

variable {t : StreamTable} {s : Stream} {channel : ChannelId}

theorem channel_of_find? (found : t.find? channel = some s) : s.channel = channel := by
  simpa using List.find?_some found

theorem mem_of_find? (found : t.find? channel = some s) : s ∈ t.streams :=
  List.mem_of_find?_eq_some found

/-- A stream is replaced where it is found, and nowhere else. -/
theorem find?_update (t : StreamTable) (s : Stream) (channel : ChannelId) :
    (t.update s).find? channel =
      if s.channel = channel then (t.find? channel).map fun _ => s else t.find? channel := by
  simp only [find?, update, List.find?_map]
  have still : ((fun other : Stream => other.channel == channel) ∘
      fun other : Stream => if other.channel == s.channel then s else other) =
      fun other => other.channel == channel := by
    funext other
    by_cases same : other.channel = s.channel <;> simp [same]
  rw [still]
  cases found : t.streams.find? fun other => other.channel == channel with
  | none => simp
  | some other =>
    have own : other.channel = channel := channel_of_find? found
    by_cases same : s.channel = channel
    · simp [same, own]
    · simp [same, own, Ne.symm same]

theorem find?_deactivate (t : StreamTable) (stopped channel : ChannelId) :
    (t.deactivate stopped).1.find? channel =
      if stopped = channel then none else t.find? channel := by
  simp only [deactivate]
  split
  · next absent =>
    split
    · next same => exact same ▸ absent
    · rfl
  · simp only [find?, List.find?_filter]
    split
    · next same =>
      rw [List.find?_eq_none]
      simp [same]
    · next other =>
      congr 1
      funext s
      by_cases own : s.channel = channel
      · simp [own, Ne.symm other]
      · simp [own]

/-- A stream that is put at its place is found there, if no other one is. -/
theorem find?_insertSorted {streams : List Stream}
    (absent : ∀ other ∈ streams, other.channel ≠ s.channel) (channel : ChannelId) :
    (insertSorted s streams).find? (·.channel == channel) =
      if s.channel = channel then some s else streams.find? (·.channel == channel) := by
  induction streams with
  | nil => by_cases own : s.channel = channel <;> simp [insertSorted, own]
  | cons other rest ih =>
    have apart := absent other (.head _)
    have ih := ih fun other member => absent other (.tail _ member)
    by_cases own : s.channel = channel
    · simp only [insertSorted]
      split
      · simp [own]
      · rw [List.find?_cons_of_neg (by simpa [← own] using apart), ih]
        simp [own]
    · simp only [insertSorted]
      split
      · simp [own]
      · rw [List.find?_cons, List.find?_cons, ih, if_neg own]

theorem ne_of_mem_deactivate {stopped : ChannelId} (member : s ∈ (t.deactivate stopped).1.streams) :
    s.channel ≠ stopped := by
  simp only [deactivate] at member
  split at member
  · next absent =>
    rw [find?, List.find?_eq_none] at absent
    simpa using absent s member
  · simpa using (List.mem_filter.1 member).2

@[simp] theorem alignment_deactivate (t : StreamTable) (channel : ChannelId) :
    (t.deactivate channel).1.alignment = t.alignment := by
  simp only [deactivate]
  split <;> rfl

@[simp] theorem alignment_activate (t : StreamTable) (channel : ChannelId) (session : SessionId)
    (player : Player) : (t.activate channel session player).1.alignment = t.alignment :=
  alignment_deactivate t channel

/-- A new session is found on its channel, and nothing else changes. -/
theorem find?_activate (t : StreamTable) (started : ChannelId) (session : SessionId)
    (player : Player) (channel : ChannelId) :
    (t.activate started session player).1.find? channel =
      if started = channel then some (.start t.alignment started session player)
      else t.find? channel := by
  have absent : ∀ other ∈ (t.deactivate started).1.streams,
      other.channel ≠ (Stream.start t.alignment started session player).channel :=
    fun other member => ne_of_mem_deactivate member
  have placed := find?_insertSorted absent channel
  have left := find?_deactivate t started channel
  simp only [activate, find?, alignment_deactivate] at placed left ⊢
  rw [placed, left]
  by_cases own : started = channel
  · simp [Stream.start, own]
  · simp [Stream.start, own]

end StreamTable
end Lookout
