import Lookout.Error

/-!
# Configuration

Everything that can be set has a default, so that an empty configuration works.  `Config.validate`
refuses what the console could not run with; the first fault in a fixed order is the one that is
told.

## Main definitions

* `Config` and its sections, with their defaults.
* `validateAddress`, `Config.validate`.
* `Alignment.frameInterval?` — the time between two displayed frames.
-/

namespace Lookout

/-- Milliseconds. -/
abbrev Millis := Nat

/-- How the link is kept. -/
structure Connection where
  /-- address of the device -/
  url : Option String := none
  /-- time between two signs of life on an open link -/
  heartbeatInterval : Millis := 5000
  /-- wait before each attempt to connect again -/
  reconnectInterval : Millis := 3000
  /-- attempts to connect again before the link counts as lost -/
  reconnectAttempts : Nat := 3
  /-- wait before messages that are held are tried again -/
  sendRetryDelay : Millis := 200
  /-- how many messages are held; the oldest is dropped beyond that -/
  maxPendingSends : Nat := 256
  /-- a link is dead when nothing arrives for this long -/
  idleTimeout : Option Millis := none
  /-- how long a link may stay open after the device has announced its end -/
  closeGrace : Millis := 5000

/-- How results find their frame. -/
structure Alignment where
  /-- greatest distance, in microseconds, between a result and the frame that it is shown on -/
  window : Nat := 100000
  /-- length of the queue above which stale results are swept -/
  pruneThreshold : Nat := 30
  /-- displayed frames per second -/
  frameRate : Float := 60.0

/-- How playback keeps up with the stream. -/
structure Playback where
  /-- up to this gap, in seconds, playback runs at its nominal rate -/
  nominalGap : Float := 0.3
  /-- from this gap on playback jumps to the end of what is buffered -/
  skipGap : Float := 5.0
  /-- rate of playback between the two -/
  catchUpRate : Float := 1.2

/-- How media frames are counted. -/
structure Demux where
  /-- a payload must be longer than this to count as a picture -/
  minPictureLength : Nat := 33

/-- How often statistics are reported. -/
structure Metrics where
  interval : Millis := 1000

/-- The whole configuration. -/
structure Config where
  connection : Connection := {}
  alignment : Alignment := {}
  playback : Playback := {}
  demux : Demux := {}
  metrics : Metrics := {}

/-- A device is reached over a websocket. -/
def validateAddress (url : String) : Except ConfigFault Unit :=
  if "ws://".isPrefixOf url || "wss://".isPrefixOf url then .ok () else .error (.address url)

/-- Fails with a fault unless a condition holds. -/
def demand (condition : Bool) (fault : ConfigFault) : Except ConfigFault Unit :=
  if condition then .ok () else .error fault

/-- Whether a float is a positive number. -/
def isPositive (x : Float) : Bool := x.isFinite && 0 < x

/-- Refuses a link that could not be kept. -/
def Connection.validate (c : Connection) : Except ConfigFault Unit := do
  match c.url with
  | some url => validateAddress url
  | none => .ok ()
  demand (0 < c.heartbeatInterval) (.notPositive "heartbeat_interval_ms")
  demand (0 < c.reconnectInterval) (.notPositive "reconnect_interval_ms")
  demand (0 < c.sendRetryDelay) (.notPositive "send_retry_delay_ms")
  demand (0 < c.closeGrace) (.notPositive "close_grace_ms")

/-- Refuses limits that let nothing through. -/
def Connection.validateLimits (c : Connection) : Except ConfigFault Unit := do
  demand (c.idleTimeout != some 0) .idleTimeout
  demand (0 < c.maxPendingSends) (.notPositive "max_pending_sends")

/-- Refuses gaps that are not in order and a rate that is no rate. -/
def Playback.validate (p : Playback) : Except ConfigFault Unit := do
  demand (0 ≤ p.nominalGap && p.nominalGap < p.skipGap) (.gaps p.nominalGap p.skipGap)
  demand (isPositive p.catchUpRate) (.catchUpRate p.catchUpRate)

/-- Refuses a configuration that the console could not run with. -/
def Config.validate (c : Config) : Except ConfigFault Unit := do
  c.connection.validate
  demand (0 < c.metrics.interval) (.notPositive "metrics.interval_ms")
  c.connection.validateLimits
  demand (isPositive c.alignment.frameRate) (.frameRate c.alignment.frameRate)
  c.playback.validate

/-- A time in seconds as whole nanoseconds, the nearest or of two equally near the even one;
undefined for a negative time and from `2 ^ 64` seconds on. -/
def nanoseconds? (seconds : Float) : Option Nanoseconds :=
  match Format.double.unpack seconds.toBits.toNat with
  | .finite negative significand exponent =>
    let num := significand * Nat.pow 2 exponent.toNat
    let den := Nat.pow 2 (-exponent).toNat
    if negative && significand != 0 then none
    else if den * UInt64.size ≤ num then none
    else some (nearestEven (num * nanosPerSecond) den)
  | _ => none

/-- The time between two displayed frames. -/
def Alignment.frameInterval? (a : Alignment) : Option Nanoseconds :=
  nanoseconds? (1.0 / a.frameRate)

/-- Whether everything is set to its default. -/
def Config.isDefault (c : Config) : Bool :=
  let d : Config := {}
  c.connection.url == none &&
    c.connection.heartbeatInterval == d.connection.heartbeatInterval &&
    c.connection.reconnectInterval == d.connection.reconnectInterval &&
    c.connection.reconnectAttempts == d.connection.reconnectAttempts &&
    c.connection.sendRetryDelay == d.connection.sendRetryDelay &&
    c.connection.maxPendingSends == d.connection.maxPendingSends &&
    c.connection.idleTimeout == d.connection.idleTimeout &&
    c.connection.closeGrace == d.connection.closeGrace &&
    c.alignment.window == d.alignment.window &&
    c.alignment.pruneThreshold == d.alignment.pruneThreshold &&
    c.alignment.frameRate == d.alignment.frameRate &&
    c.playback.nominalGap == d.playback.nominalGap &&
    c.playback.skipGap == d.playback.skipGap &&
    c.playback.catchUpRate == d.playback.catchUpRate &&
    c.demux.minPictureLength == d.demux.minPictureLength &&
    c.metrics.interval == d.metrics.interval

end Lookout
