import WatchTrial.Settings.Basic
import WatchTrial.Settings.Variables
import WatchTrial.Storage.Files
import WatchTrial.Fault
import WatchTrial.Yaml.Record
/-!
# Loading settings

A settings file is laid over the defaults, after the variables in its text have been replaced.
-/
namespace WatchTrial

open Yaml (Slot)

def Timeouts.slots : List (String × Slot Settings) :=
  let wait (set : Int64 → Timeouts → Timeouts) : Slot Settings :=
    .duration fun d s => { s with timeouts := set d s.timeouts }
  [("long", wait fun d t => { t with long := d }),
    ("medium", wait fun d t => { t with medium := d }),
    ("short", wait fun d t => { t with short := d }),
    ("hold", wait fun d t => { t with hold := d }),
    ("swipe_duration", wait fun d t => { t with swipeDuration := d }),
    ("swipe_steps", .int fun n s => { s with timeouts := { s.timeouts with swipeSteps := n } }),
    ("install_settle", wait fun d t => { t with installSettle := d }),
    ("activate_settle", wait fun d t => { t with activateSettle := d }),
    ("deselect_settle", wait fun d t => { t with deselectSettle := d }),
    ("ambient_wait", wait fun d t => { t with ambientWait := d }),
    ("reconnect_delay", wait fun d t => { t with reconnectDelay := d }),
    ("poll_interval", wait fun d t => { t with pollInterval := d })]

/-- The parts of a listener filter that a settings file can name. -/
def ListenerFilter.slots : List (String × Slot Settings) :=
  [("prefixes", .texts fun v s => { s with listeners := { s.listeners with prefixes := v } }),
    ("exact", .texts fun v s => { s with listeners := { s.listeners with exact := v } })]

namespace Settings

def slot : Slot Settings :=
  .group "definitions.HarnessConfig"
    [("adb_path", .text fun v s => { s with adbPath := v }),
      ("wear_serial", .text fun v s => { s with wearSerial := v }),
      ("handheld_serial", .text fun v s => { s with handheldSerial := v }),
      ("monkey_port", .int fun v s => { s with monkeyPort := v }),
      ("appium_url", .text fun v s => { s with appiumUrl := v }),
      ("apk_dir", .text fun v s => { s with apkDir := v }),
      ("handheld_apk_dir", .text fun v s => { s with handheldApkDir := v }),
      ("labels_file", .text fun v s => { s with labelsFile := v }),
      ("apk_list_file", .text fun v s => { s with apkListFile := v }),
      ("screenshot_dir", .text fun v s => { s with screenshotDir := v }),
      ("screenshot_pattern", .text fun v s => { s with screenshotPattern := v }),
      ("completed_suffix", .text fun v s => { s with completedSuffix := v }),
      ("default_watch_face", .text fun v s => { s with defaultWatchFace := v }),
      ("script", .texts fun v s => { s with script := v }),
      ("ignored_listeners", .group "definitions.ListenerFilter" ListenerFilter.slots),
      ("timeouts", .group "definitions.Timeouts" Timeouts.slots)]

/-- The settings that a text describes, where `value` gives the variables. -/
def ofText (value : String → String) (source : List Text.Piece) : Except Fault Settings :=
  match Yaml.fillFrom slot {} (Variables.expand value source) with
  | .ok s => .ok s
  | .error problem => .error (.context "parse config" (.plain problem))

/-- Loads a settings file; without a name the settings are the defaults. -/
def load (files : Files) (value : String → String) (path : String) : Except Fault Settings :=
  if path = "" then .ok {}
  else
    match files.read path with
    | .error problem => .error (.context "load config" (.plain problem))
    | .ok content => ofText value (Text.piecesOf content.toList)

end Settings

end WatchTrial
