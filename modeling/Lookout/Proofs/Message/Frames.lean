import Lookout.Frame

/-!
# The two directions of a media frame

A byte string is a frame if and only if it has room for the header.  Reading and writing then are
inverse to each other, over all channels, all times and all payloads, so frames and byte strings of
at least twelve bytes are the same thing (`framing_law`).
-/

namespace Lookout

namespace Bytes

/-- The byte at a position says how often the power of 256 there goes into the number. -/
theorem getElem?_ofNat {width position : Nat} (inside : position < width) (n : Nat) :
    (ofNat width n)[position]? = some (UInt8.ofNat (n / Nat.pow 256 position % 256)) := by
  induction width generalizing position n with
  | zero => omega
  | succ width ih =>
    cases position with
    | zero => simp [ofNat]
    | succ position =>
      have shifted : n / 256 / Nat.pow 256 position = n / Nat.pow 256 (position + 1) := by
        rw [Nat.div_div_eq_div_mul]
        congr 1
        exact Nat.mul_comm ..
      rw [ofNat, List.getElem?_cons_succ, ih (by omega), shifted]

/-- A number that fits the width is read back. -/
theorem toNat_ofNat_of_lt {width n : Nat} (fits : n < Nat.pow 256 width) :
    toNat (ofNat width n) = n := by
  rw [toNat_ofNat, Nat.mod_eq_of_lt fits]

/-- Bytes that fill the width are written again. -/
theorem ofNat_toNat_of_length {width : Nat} {bytes : Bytes} (full : bytes.length = width) :
    ofNat width (toNat bytes) = bytes := by
  subst full
  exact ofNat_toNat bytes

end Bytes

namespace Frame

variable {raw : Bytes} {frame : Frame}

theorem length_encode (frame : Frame) :
    (encode frame).length = headerLength + frame.payload.length := by
  simp only [encode, List.length_append, Bytes.length_ofNat]
  rfl

theorem decode_eq_error_iff {fault : Truncated} :
    decode raw = .error fault ↔ raw.length < headerLength ∧ fault = ⟨raw.length⟩ := by
  rw [decode]
  split
  · next short =>
    simp [short, eq_comm]
  · next long =>
    simp [long]

/-- What has been written is read. -/
theorem decode_encode (frame : Frame) : decode (encode frame) = .ok frame := by
  obtain ⟨channel, timestamp, payload⟩ := frame
  have long : ¬ (encode ⟨channel, timestamp, payload⟩).length < headerLength := by
    rw [length_encode]
    omega
  have front : (Bytes.ofNat 4 channel.toNat).length = 4 := Bytes.length_ofNat ..
  have middle : (Bytes.ofNat 8 timestamp.toNat).length = 8 := Bytes.length_ofNat ..
  have header : (Bytes.ofNat 4 channel.toNat ++ Bytes.ofNat 8 timestamp.toNat).length =
      headerLength := by
    rw [List.length_append, front, middle]
    rfl
  rw [decode, if_neg long, encode, List.drop_left' header, List.append_assoc,
    List.take_left' front, List.drop_left' front, List.take_left' middle,
    Bytes.toNat_ofNat_of_lt channel.toNat_lt, Bytes.toNat_ofNat_of_lt timestamp.toNat_lt,
    UInt32.ofNat_toNat, UInt64.ofNat_toNat]

/-- What has been read is written again. -/
theorem encode_of_decode (read : decode raw = .ok frame) : encode frame = raw := by
  rw [decode] at read
  split at read
  · cases read
  · next long =>
    have enough : 12 ≤ raw.length := Nat.not_lt.1 long
    cases read
    have front : (raw.take 4).length = 4 := by
      rw [List.length_take]
      omega
    have middle : ((raw.drop 4).take 8).length = 8 := by
      rw [List.length_take, List.length_drop]
      omega
    have channel : Bytes.toNat (raw.take 4) < UInt32.size := by
      have below := Bytes.toNat_lt (raw.take 4)
      rwa [front] at below
    have timestamp : Bytes.toNat ((raw.drop 4).take 8) < UInt64.size := by
      have below := Bytes.toNat_lt ((raw.drop 4).take 8)
      rwa [middle] at below
    have rest : raw.drop headerLength = (raw.drop 4).drop 8 := by
      rw [List.drop_drop]
      rfl
    rw [encode, UInt32.toNat_ofNat_of_lt' channel, UInt64.toNat_ofNat_of_lt' timestamp,
      Bytes.ofNat_toNat_of_length front, Bytes.ofNat_toNat_of_length middle, rest,
      List.append_assoc, List.take_append_drop, List.take_append_drop]

/-- Bytes are read as a frame if and only if they are what is written for it. -/
theorem decode_eq_ok_iff : decode raw = .ok frame ↔ encode frame = raw := by
  constructor
  · exact encode_of_decode
  · rintro rfl
    exact decode_encode frame

theorem exists_decode_iff : (∃ frame, decode raw = .ok frame) ↔ headerLength ≤ raw.length := by
  constructor
  · rintro ⟨frame, read⟩
    rw [← encode_of_decode read, length_encode]
    omega
  · intro long
    cases decoded : decode raw with
    | ok frame => exact ⟨frame, rfl⟩
    | error fault => exact absurd (decode_eq_error_iff.1 decoded).1 (Nat.not_lt.2 long)

/-- The header holds the channel and then the time, least significant byte first, and nothing stands
between it and the payload. -/
theorem layout_encode (frame : Frame) :
    (∀ i : Fin 4, (encode frame)[i.val]? =
      some (UInt8.ofNat (frame.channel.toNat / Nat.pow 256 i % 256))) ∧
    (∀ i : Fin 8, (encode frame)[4 + i.val]? =
      some (UInt8.ofNat (frame.timestamp.toNat / Nat.pow 256 i % 256))) ∧
    (encode frame).drop headerLength = frame.payload := by
  have front : (Bytes.ofNat 4 frame.channel.toNat).length = 4 := Bytes.length_ofNat ..
  have middle : (Bytes.ofNat 8 frame.timestamp.toNat).length = 8 := Bytes.length_ofNat ..
  refine ⟨?_, ?_, ?_⟩
  · intro i
    have inside : i.val < (Bytes.ofNat 4 frame.channel.toNat).length := by
      rw [front]
      exact i.isLt
    rw [encode, List.append_assoc, List.getElem?_append_left inside,
      Bytes.getElem?_ofNat i.isLt]
  · intro i
    have inside : i.val < (Bytes.ofNat 8 frame.timestamp.toNat).length := by
      rw [middle]
      exact i.isLt
    rw [encode, List.append_assoc, List.getElem?_append_right (by omega), front,
      Nat.add_sub_cancel_left, List.getElem?_append_left inside, Bytes.getElem?_ofNat i.isLt]
  · apply List.drop_left'
    rw [List.length_append, front, middle]
    rfl

/-- **Reading and writing frames are inverse to each other.**  Bytes that are too short for the
header are refused with their number, and no others are.  All others are read, and what is read
writes the same bytes again; every frame is written in as many bytes as header and payload take,
and read back as it was.  The header holds the channel and then the time, least significant byte
first. -/
theorem framing_law :
    (∀ raw fault, decode raw = .error fault ↔
      raw.length < headerLength ∧ fault = ⟨raw.length⟩) ∧
    (∀ raw, headerLength ≤ raw.length ↔ ∃ frame, decode raw = .ok frame ∧ encode frame = raw) ∧
    (∀ frame, decode (encode frame) = .ok frame ∧
      (encode frame).length = headerLength + frame.payload.length) ∧
    (∀ raw frame, decode raw = .ok frame ↔ encode frame = raw) ∧
    ∀ frame : Frame,
      (∀ i : Fin 4, (encode frame)[i.val]? =
        some (UInt8.ofNat (frame.channel.toNat / Nat.pow 256 i % 256))) ∧
      (∀ i : Fin 8, (encode frame)[4 + i.val]? =
        some (UInt8.ofNat (frame.timestamp.toNat / Nat.pow 256 i % 256))) ∧
      (encode frame).drop headerLength = frame.payload := by
  refine ⟨?_, ?_, ?_, ?_, layout_encode⟩
  · intro raw fault
    exact decode_eq_error_iff
  · intro raw
    rw [← exists_decode_iff]
    apply exists_congr
    intro frame
    exact ⟨fun read => ⟨read, encode_of_decode read⟩, And.left⟩
  · intro frame
    exact ⟨decode_encode frame, length_encode frame⟩
  · intro raw frame
    exact decode_eq_ok_iff

end Frame
end Lookout
