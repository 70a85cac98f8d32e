import Lookout.Config.Basic

/-!
# The fields of a configuration

Which fields a section has, in which order, and what they hold is the same in every notation.  A
notation only has to say how it reads a number, a text and a section.

## Main definitions

* `Config.Field`, `Config.Reader` — what a notation provides.
* `Config.Reader.config` — reads a configuration over its defaults.
-/

namespace Lookout.Config

/-- How one field of a section is read into it. -/
structure Field (ν ε α : Type) where
  name : String
  read : ν → α → Except ε α

/-- A field that is read with `read` and stored with `set`. -/
def field {ν ε α β : Type} (name : String) (read : ν → Except ε β) (set : β → α → α) :
    Field ν ε α where
  name
  read value whole := (read value).map (set · whole)

/-- How a notation with values `ν` and faults `ε` is read. -/
structure Reader (ν ε : Type) where
  optionalText : ν → Except ε (Option String)
  /-- a whole number of sixty-four bits -/
  long : ν → Except ε Nat
  optionalLong : ν → Except ε (Option Nat)
  /-- a number of things -/
  size : ν → Except ε Nat
  /-- a whole number of thirty-two bits -/
  short : ν → Except ε Nat
  double : ν → Except ε Float
  /-- a section, by the name of its type, over its defaults -/
  record : {α : Type} → String → List (Field ν ε α) → α → ν → Except ε α

namespace Reader

variable {ν ε : Type}

/-- Reads the section on the link. -/
def connection (r : Reader ν ε) : ν → Except ε Connection :=
  r.record "ConnectionConfig" [
    field "url" r.optionalText fun v c => { c with url := v },
    field "heartbeat_interval_ms" r.long fun v c => { c with heartbeatInterval := v },
    field "reconnect_interval_ms" r.long fun v c => { c with reconnectInterval := v },
    field "reconnect_attempts" r.short fun v c => { c with reconnectAttempts := v },
    field "send_retry_delay_ms" r.long fun v c => { c with sendRetryDelay := v },
    field "max_pending_sends" r.size fun v c => { c with maxPendingSends := v },
    field "idle_timeout_ms" r.optionalLong fun v c => { c with idleTimeout := v },
    field "close_grace_ms" r.long fun v c => { c with closeGrace := v }] {}

/-- Reads the section on alignment. -/
def alignment (r : Reader ν ε) : ν → Except ε Alignment :=
  r.record "AlignmentConfig" [
    field "window_us" r.long fun v a => { a with window := v },
    field "prune_threshold" r.size fun v a => { a with pruneThreshold := v },
    field "frame_rate_hz" r.double fun v a => { a with frameRate := v }] {}

/-- Reads the section on playback. -/
def playback (r : Reader ν ε) : ν → Except ε Playback :=
  r.record "PlaybackConfig" [
    field "nominal_gap_secs" r.double fun v p => { p with nominalGap := v },
    field "skip_gap_secs" r.double fun v p => { p with skipGap := v },
    field "catch_up_rate" r.double fun v p => { p with catchUpRate := v }] {}

/-- Reads the section on counting. -/
def demux (r : Reader ν ε) : ν → Except ε Demux :=
  r.record "DemuxConfig" [
    field "min_picture_len" r.size fun v d => { d with minPictureLength := v }] {}

/-- Reads the section on statistics. -/
def metrics (r : Reader ν ε) : ν → Except ε Metrics :=
  r.record "MetricsConfig" [field "interval_ms" r.long fun v m => { m with interval := v }] {}

/-- Reads a configuration, without a look at what its values would do. -/
def config (r : Reader ν ε) : ν → Except ε Config :=
  r.record "ClientConfig" [
    field "connection" r.connection fun v c => { c with connection := v },
    field "alignment" r.alignment fun v c => { c with alignment := v },
    field "playback" r.playback fun v c => { c with playback := v },
    field "demux" r.demux fun v c => { c with demux := v },
    field "metrics" r.metrics fun v c => { c with metrics := v }] {}

end Reader

/-- Reads items into a section, in the order of its fields; gives the items that are left. -/
def readItems {ν ε α : Type} : List (Field ν ε α) → List ν → α → Except ε (α × List ν)
  | [], items, whole => .ok (whole, items)
  | _ :: _, [], whole => .ok (whole, [])
  | field :: fields, item :: items, whole => do readItems fields items (← field.read item whole)

/-- The first fault of the values, if there is one. -/
def validated (c : Config) : Except Error Config :=
  (c.validate.mapError Error.config).map fun _ => c

end Lookout.Config
