import WatchTrial.Sensor.Filter
import WatchTrial.Json.Basic
import WatchTrial.Text.Decimal
/-!
# Settings

Everything a campaign can be told: which devices and servers to use, where files are, what to play, and
how long to wait. Durations are in nanoseconds.
-/
namespace WatchTrial

/-- Every fixed wait of a trial, and how a swipe is divided. -/
structure Timeouts where
  long : Int64 := 45000000000
  medium : Int64 := 5000000000
  short : Int64 := 1000000000
  hold : Int64 := 1000000000
  swipeDuration : Int64 := 100000000
  swipeSteps : Int64 := 10
  installSettle : Int64 := 5000000000
  activateSettle : Int64 := 8000000000
  deselectSettle : Int64 := 8000000000
  ambientWait : Int64 := 26000000000
  reconnectDelay : Int64 := 1000000000
  pollInterval : Int64 := 2000000000
deriving Repr, DecidableEq, Inhabited

/-- The settings of a campaign, each with its default. A script that was never given is absent. -/
structure Settings where
  adbPath : String := "adb"
  wearSerial : String := "127.0.0.1:4444"
  handheldSerial : String := ""
  monkeyPort : Int64 := 12345
  appiumUrl : String := "http://127.0.0.1:4723"
  apkDir : String := "../apks/wear"
  handheldApkDir : String := "../apks/handheld"
  labelsFile : String := "pkg_wfs_label.csv"
  apkListFile : String := "display.leak.txt"
  screenshotDir : String := "screenshots"
  screenshotPattern : String := "\x7bdir\x7d/\x7bpkg\x7d.\x7bphase\x7d.png"
  completedSuffix : String := ".ambient.png"
  defaultWatchFace : String := "Astral"
  script : Option (List String) := none
  listeners : ListenerFilter := .platform
  timeouts : Timeouts := {}
deriving Repr, DecidableEq, Inhabited

namespace Settings

def gestures (s : Settings) : List String :=
  s.script.getD []

/-- What makes settings unusable. -/
inductive Problem where
  | noWearSerial
  | noHandheldSerial
  | sameSerial
  | badPort (port : Int64)
  | badSteps (steps : Int64)
  | noWatchFace
deriving Repr, DecidableEq

def Problem.message : Problem → String
  | noWearSerial => "config: wear_serial is required"
  | noHandheldSerial => "config: handheld_serial is required"
  | sameSerial => "config: wear_serial and handheld_serial must differ"
  | badPort port => "config: invalid monkey_port " ++ Text.showInt64 port
  | badSteps steps => "config: timeouts.swipe_steps must be >= 1, got " ++ Text.showInt64 steps
  | noWatchFace => "config: default_watch_face is required"

/-- The first problem of settings. -/
def problem? (s : Settings) : Option Problem :=
  if s.wearSerial = "" then some .noWearSerial
  else if s.handheldSerial = "" then some .noHandheldSerial
  else if s.wearSerial = s.handheldSerial then some .sameSerial
  else if s.monkeyPort ≤ 0 ∨ 65535 < s.monkeyPort then some (.badPort s.monkeyPort)
  else if s.timeouts.swipeSteps < 1 then some (.badSteps s.timeouts.swipeSteps)
  else if s.defaultWatchFace = "" then some .noWatchFace
  else none

end Settings

namespace Json

/-- A signed number. -/
def int64 (n : Int64) : Json := number (Text.showInt64 n)

def texts : Option (List String) → Json
  | none => null
  | some xs => array (xs.map string)

end Json

def ListenerFilter.toJson (f : ListenerFilter) : Json :=
  .object [("prefixes", .texts f.prefixes), ("exact", .texts f.exact)]

def Timeouts.toJson (t : Timeouts) : Json :=
  .object [("Long", .int64 t.long), ("Medium", .int64 t.medium), ("Short", .int64 t.short),
    ("Hold", .int64 t.hold), ("SwipeDuration", .int64 t.swipeDuration), ("SwipeSteps", .int64 t.swipeSteps),
    ("InstallSettle", .int64 t.installSettle), ("ActivateSettle", .int64 t.activateSettle),
    ("DeselectSettle", .int64 t.deselectSettle), ("AmbientWait", .int64 t.ambientWait),
    ("ReconnectDelay", .int64 t.reconnectDelay), ("PollInterval", .int64 t.pollInterval)]

def Settings.toJson (s : Settings) : Json :=
  .object [("ADBPath", .string s.adbPath), ("WearSerial", .string s.wearSerial),
    ("HandheldSerial", .string s.handheldSerial), ("MonkeyPort", .int64 s.monkeyPort),
    ("AppiumURL", .string s.appiumUrl), ("ApkDir", .string s.apkDir),
    ("HandheldApkDir", .string s.handheldApkDir), ("LabelsFile", .string s.labelsFile),
    ("ApkListFile", .string s.apkListFile), ("ScreenshotDir", .string s.screenshotDir),
    ("ScreenshotPattern", .string s.screenshotPattern), ("CompletedSuffix", .string s.completedSuffix),
    ("DefaultWatchFace", .string s.defaultWatchFace), ("Script", .texts s.script),
    ("Listeners", s.listeners.toJson), ("Timeouts", s.timeouts.toJson)]

end WatchTrial
