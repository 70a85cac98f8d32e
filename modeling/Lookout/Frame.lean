import Lookout.Bytes

/-!
# Binary media frames

A binary message of the device is a twelve-byte header, the channel as four bytes and the capture
time as eight, both least significant byte first, and then the media payload, which may be empty.
`Frame.decode` and `Frame.encode` are inverse to each other on byte strings that are long enough
to hold a header.

## Main definitions

* `ChannelId` — the number of one video pipeline of the device.
* `Frame` — the decoded message.
* `Frame.decode`, `Frame.encode`.
-/

namespace Lookout

/-- The number of one video pipeline of the device. -/
abbrev ChannelId := UInt32

/-- Microseconds on the device's own clock. -/
abbrev Timestamp := UInt64

/-- One media payload with the channel that it belongs to and its capture time. -/
structure Frame where
  channel : ChannelId
  timestamp : Timestamp
  payload : Bytes
deriving Repr, DecidableEq

/-- A byte string that is too short to hold the header. -/
structure Truncated where
  /-- how many bytes there were -/
  length : Nat
deriving Repr, DecidableEq

namespace Frame

/-- The header is four bytes of channel and eight of capture time. -/
def headerLength : Nat := 12

/-- Reads the header and takes all that follows it as the payload. -/
def decode (raw : Bytes) : Except Truncated Frame :=
  if raw.length < headerLength then
    .error ⟨raw.length⟩
  else
    .ok {
      channel := UInt32.ofNat (Bytes.toNat (raw.take 4))
      timestamp := UInt64.ofNat (Bytes.toNat ((raw.drop 4).take 8))
      payload := raw.drop headerLength }

/-- Writes the header in front of the payload. -/
def encode (frame : Frame) : Bytes :=
  Bytes.ofNat 4 frame.channel.toNat ++ Bytes.ofNat 8 frame.timestamp.toNat ++ frame.payload

end Frame

end Lookout
