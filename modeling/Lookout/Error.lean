import Lookout.Json.Decode
import Lookout.Frame

/-!
# Errors

Every way in which an operation of the console fails, as a cause and not as a text.  One function
words them; two others say whether trying again may help and what a user can do.

## Main definitions

* `Error` — the causes, grouped by what went wrong.
* `Error.message`, `Error.retryable`, `Error.suggestions`, `Error.source`.
-/

namespace Lookout

/-- A span of time in nanoseconds. -/
abbrev Nanoseconds := Nat

/-- A millisecond. -/
def nanosPerMilli : Nanoseconds := 1000000

/-- A second. -/
def nanosPerSecond : Nanoseconds := 1000000000

/-- Digits of a fraction with `width` places, without zeros at its end. -/
def fractionDigits (width n : Nat) : List Char :=
  let digits := Nat.toDigits 10 n
  let padded := List.replicate (width - digits.length) '0' ++ digits
  (padded.reverse.dropWhile (· == '0')).reverse

/-- A span of time in a unit of `10 ^ places` nanoseconds, with as many places as it needs. -/
def spanIn (unit : String) (places n : Nat) : String :=
  let fraction := fractionDigits places (n % Nat.pow 10 places)
  toString (n / Nat.pow 10 places) ++
    (if fraction.isEmpty then "" else "." ++ String.ofList fraction) ++ unit

/-- The text of a span of time: the largest unit of which it has at least one. -/
def describeSpan (n : Nanoseconds) : String :=
  if nanosPerSecond ≤ n then spanIn "s" 9 n
  else if nanosPerMilli ≤ n then spanIn "ms" 6 n
  else if 1000 ≤ n then spanIn "µs" 3 n
  else spanIn "ns" 0 n

/-- Why a configuration is refused. -/
inductive ConfigFault where
  | address (url : String)
  | noAddress
  | notPositive (name : String)
  | idleTimeout
  | frameRate (hz : Float)
  | gaps (nominal skip : Float)
  | catchUpRate (rate : Float)
  | other (reason : String)

/-- The wording of a refused configuration. -/
def ConfigFault.reason : ConfigFault → String
  | .address url => "url '" ++ url ++ "' must start with ws:// or wss://"
  | .noAddress => "no device url configured"
  | .notPositive name => name ++ " must be positive"
  | .idleTimeout => "idle_timeout_ms must be positive when set"
  | .frameRate hz => "frame_rate_hz " ++ Layout.plain.write hz ++ " must be positive"
  | .gaps nominal skip =>
    "nominal_gap_secs (" ++ Layout.plain.write nominal ++
      ") must be non-negative and below skip_gap_secs (" ++ Layout.plain.write skip ++ ")"
  | .catchUpRate rate => "catch_up_rate " ++ Layout.plain.write rate ++ " must be positive"
  | .other reason => reason

/-- Why well-formed text is no message. -/
inductive ParseFault where
  | mismatch (m : Json.Mismatch)
  | notAnObject (article : String)
  | bothPayloads
  | noPayload
  | other (context details : String)

/-- What was being read. -/
def ParseFault.context : ParseFault → String
  | .mismatch _ => "JSON message"
  | .notAnObject _ => "inbound message"
  | .bothPayloads | .noPayload => "algorithm result"
  | .other context _ => context

/-- What is wrong with it. -/
def ParseFault.details : ParseFault → String
  | .mismatch m => m.message
  | .notAnObject article => "expected a JSON object, got " ++ article
  | .bothPayloads => "both classification_result and detection_result are present"
  | .noPayload => "result carries no payload"
  | .other _ details => details

/-- The notation that a malformed text was meant to be in. -/
inductive TextForm where
  | json
  | yaml
deriving DecidableEq

/-- What a malformed text was meant to be. -/
def TextForm.context : TextForm → String
  | .json => "JSON message"
  | .yaml => "YAML configuration"

/-- Why a file cannot be read. -/
inductive FileFault where
  | notText
  | system (reason : String)

/-- The wording of a file fault. -/
def FileFault.reason : FileFault → String
  | .notText => "stream did not contain valid UTF-8"
  | .system reason => reason

/-- Every way in which an operation fails. -/
inductive Error where
  | connection (url reason : String) (cause : Option String)
  | transport (reason : String) (cause : Option String)
  | framing (length needed : Nat)
  /-- the text is not in its notation at all -/
  | malformed (form : TextForm)
  | parse (fault : ParseFault)
  | config (fault : ConfigFault)
  | file (path : String) (fault : FileFault)
  | channelInactive (channel : ChannelId)
  | timeout (limit : Nanoseconds)
  | closed

namespace Error

/-- The wording of an error. -/
def message : Error → String
  | .connection url reason _ => "Failed to connect to " ++ url ++ ": " ++ reason
  | .transport reason _ => "Transport error: " ++ reason
  | .framing length needed =>
    "Binary frame of " ++ toString length ++ " bytes is shorter than the " ++ toString needed ++
      "-byte header"
  | .malformed form => "Parse error in " ++ form.context ++ ": malformed text"
  | .parse fault => "Parse error in " ++ fault.context ++ ": " ++ fault.details
  | .config fault => "Invalid configuration: " ++ fault.reason
  | .file path _ => "Configuration file error: " ++ path
  | .channelInactive channel => "Channel " ++ toString channel.toNat ++ " has no active stream"
  | .timeout limit => "No inbound traffic for " ++ describeSpan limit
  | .closed => "Client has been shut down"

/-- Whether trying again may help. -/
def retryable : Error → Bool
  | .connection .. | .transport .. | .timeout .. => true
  | _ => false

/-- The cause behind an error, where there is one. -/
def source : Error → Option String
  | .connection _ _ cause => cause
  | .transport _ cause => cause
  | .file _ fault => some fault.reason
  | _ => none

/-- What a user can do. -/
def suggestions : Error → List String
  | .connection .. =>
    ["Check the device is powered and reachable",
     "Verify the websocket host and port",
     "Check no firewall blocks the websocket port"]
  | .transport .. =>
    ["Check network stability between console and device",
     "Wait for the automatic reconnect to complete"]
  | .framing .. =>
    ["Check the device firmware sends the 12-byte frame header",
     "Verify the console and device protocol versions match"]
  | .malformed _ | .parse _ =>
    ["Check the message is valid JSON",
     "Verify the console and device protocol versions match"]
  | .config _ =>
    ["Review the configuration values against their documented ranges",
     "Remove the offending key to fall back to its default"]
  | .file .. =>
    ["Check the configuration file exists and is readable",
     "Check file permissions"]
  | .channelInactive _ =>
    ["Start the stream for this channel before feeding it",
     "Check the channel id reported by the device"]
  | .timeout _ =>
    ["Increase the idle timeout",
     "Check the device is still producing traffic"]
  | .closed => ["Construct a new client"]

/-- A failed decoding of JSON text. -/
def ofFault : Json.Fault → Error
  | .malformed => .malformed .json
  | .mismatch m => .parse (.mismatch m)

end Error

end Lookout
