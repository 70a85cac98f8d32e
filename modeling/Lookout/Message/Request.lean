/-!
# What the console can ask of the device

Every request has a name and a code; the codes are those of the device's protocol.  Three more
codes belong to the link itself.

## Main definitions

* `RequestKind` with `RequestKind.code`, `RequestKind.ofCode?`, `RequestKind.name`.
* `LinkCode.heartbeat`, `LinkCode.superseded`, `LinkCode.serverClosing`.
-/

namespace Lookout

/-- The requests that the device understands. -/
inductive RequestKind where
  | appSwitch
  | snapshot
  | startStream
  | stopStream
  | syncTime
  | setBitrate
  | getConfig
  | saveConfigs
  | recoveryConfigs
  | algorithmResult
deriving Repr, DecidableEq

namespace RequestKind

/-- All kinds, in the order of their codes. -/
def all : List RequestKind :=
  [appSwitch, snapshot, startStream, stopStream, syncTime, setBitrate, getConfig, saveConfigs,
    recoveryConfigs, algorithmResult]

/-- The code that stands for a kind in a message. -/
def code : RequestKind → Int
  | appSwitch => 1
  | snapshot => 2
  | startStream => 3
  | stopStream => 4
  | syncTime => 5
  | setBitrate => 6
  | getConfig => 7
  | saveConfigs => 8
  | recoveryConfigs => 9
  | algorithmResult => 10

/-- The kind that a code stands for. -/
def ofCode? (code : Int) : Option RequestKind := all.find? (·.code == code)

/-- The name of a kind. -/
def name : RequestKind → String
  | appSwitch => "AppSwitch"
  | snapshot => "Snapshot"
  | startStream => "StartStream"
  | stopStream => "StopStream"
  | syncTime => "SyncTime"
  | setBitrate => "SetBitrate"
  | getConfig => "GetConfig"
  | saveConfigs => "SaveConfigs"
  | recoveryConfigs => "RecoveryConfigs"
  | algorithmResult => "AlgorithmResult"

/-- The kind with a name. -/
def ofName? (name : String) : Option RequestKind := all.find? (·.name == name)

/-- Every kind is found under its code. -/
@[simp] theorem ofCode?_code (k : RequestKind) : ofCode? k.code = some k := by
  cases k <;> rfl

end RequestKind

namespace LinkCode

/-- The console is still there. -/
def heartbeat : Int := 0

/-- Another console has taken the session over. -/
def superseded : Int := 99

/-- The device is about to close the link. -/
def serverClosing : Int := 110

end LinkCode

end Lookout
