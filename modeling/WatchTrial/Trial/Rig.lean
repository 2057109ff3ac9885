import WatchTrial.Device.Screenshot
import WatchTrial.Effect
import WatchTrial.Face.ApkList
import WatchTrial.Sensor.Snapshot
import WatchTrial.Settings.Basic
import WatchTrial.Storage.Path
import WatchTrial.Text.Stencil
import WatchTrial.Trial.Step
/-!
# Taking the steps of a trial

A rig is what a trial works with: two devices, the picker of watch faces, the watch, the labels and a clock.
What a trial finds is written into a draft, from which its report is made.
-/
namespace WatchTrial

/-- What a trial works with. -/
structure Rig (ω : Type) where
  settings : Settings
  supports : (gesture : String) → Bool
  clearLog : Act ω Unit
  readSensors : Act ω Snapshot
  install : Target → (pkg path : String) → Act ω Unit
  uninstall : Target → (pkg : String) → Act ω Unit
  screenshot : Act ω Screenshot
  /-- Saves a file and creates the directories above it. -/
  save : (path : String) → ByteArray → Act ω Unit
  findLabel : (pkg : String) → Act ω String
  select : (label : String) → Task ω Unit
  deselect : (label : String) → Task ω Unit
  wake : Task ω Unit
  play : (script : List String) → Task ω Unit
  sleep : (duration : Int64) → Task ω Unit

/-- What a trial has found so far. -/
structure Draft where
  before : Snapshot := .empty
  after : Snapshot := .empty
  label : String := ""
  /-- The latest screenshot. -/
  shot : ByteArray := .empty
  interactive : String := ""
  ambient : String := ""
deriving Inhabited

/-- Where the packages for a device are. -/
def Settings.packageDir (s : Settings) : Target → String
  | .handheld => s.handheldApkDir
  | .wearable => s.apkDir

/-- The device that a target is. -/
def Settings.serial (s : Settings) : Target → String
  | .handheld => s.handheldSerial
  | .wearable => s.wearSerial

/-- Where a screenshot is saved. -/
def Settings.screenshotPath (s : Settings) (pkg : String) (phase : Phase) : String :=
  Text.Stencil.fill s.screenshotPattern
    [("dir", s.screenshotDir), ("pkg", pkg), ("phase", phase.name)]

/-- Notes where a screenshot was saved. -/
def Draft.saved (d : Draft) (path : String) : Phase → Draft
  | .interactive => { d with interactive := path }
  | .ambient => { d with ambient := path }

namespace Rig

variable {ω : Type} (rig : Rig ω)

/-- Fails if a gesture of the script cannot be played. -/
def checkScript : Except Fault Unit :=
  match rig.settings.gestures.find? (! rig.supports ·) with
  | some gesture => .error (.unsupportedEvent gesture)
  | none => .ok ()

def take (pkg : String) (d : Draft) : Step → Task ω Draft
  | .checkScript => do
    rig.checkScript
    return d
  | .clearLog => do
    let _ ← rig.clearLog.task.outcome
    return d
  | .readSensorsBefore => do return { d with before := ← rig.readSensors.task }
  | .install target => do
    (rig.install target pkg (ApkList.pathOf (rig.settings.packageDir target) pkg)).task
    return d
  | .settleInstall => do
    rig.sleep rig.settings.timeouts.installSettle
    return d
  | .findLabel => do return { d with label := ← (rig.findLabel pkg).task }
  | .select => do
    rig.select d.label
    return d
  | .wake | .wakeAgain => do
    rig.wake
    return d
  | .settleSelection => do
    rig.sleep rig.settings.timeouts.activateSettle
    return d
  | .playScript => do
    rig.play rig.settings.gestures
    return d
  | .deselect => do
    rig.deselect rig.settings.defaultWatchFace
    return d
  | .settleDeselection => do
    rig.sleep rig.settings.timeouts.deselectSettle
    return d
  | .readSensorsAfter => do return { d with after := ← rig.readSensors.task }
  | .takeScreenshot _ => do return { d with shot := (← rig.screenshot.task).data }
  | .saveScreenshot phase => do
    let path := rig.settings.screenshotPath pkg phase
    (rig.save path d.shot).task
    return d.saved path phase
  | .awaitAmbient => do
    rig.sleep rig.settings.timeouts.ambientWait
    return d

/-- What the failure of a step says: installing and selecting are the setup of a trial. -/
def failureOf (pkg : String) (step : Step) (fault : Fault) : Fault :=
  match step.stage with
  | .install => .setupFailed ("install " ++ pkg) fault
  | .select => .setupFailed ("select " ++ pkg) fault
  | _ => fault

/-- Takes steps until one fails, which is then given with its fault. -/
def takeAll (pkg : String) : List Step → Draft → Scene ω → (Draft × Option (Step × Fault)) × Scene ω
  | [], d, scene => ((d, none), scene)
  | step :: rest, d, scene =>
    match rig.take pkg d step scene with
    | (.ok d, scene) => takeAll pkg rest d scene
    | (.error fault, scene) => ((d, some (step, failureOf pkg step fault)), scene)

/-- Removes a package from one device after the other, and gives what went wrong. -/
def uninstallAll (pkg : String) : List Target → ω → List Fault × ω
  | [], o => ([], o)
  | target :: rest, o =>
    match rig.uninstall target pkg o with
    | (.ok _, o) => uninstallAll pkg rest o
    | (.error fault, o) =>
      let (faults, o) := uninstallAll pkg rest o
      (fault :: faults, o)

/-- Removes a package from both devices, the watch first. -/
def cleanUp (pkg : String) (o : ω) : Option Fault × ω :=
  let (faults, o) := rig.uninstallAll pkg [.wearable, .handheld] o
  ((Fault.join? faults).map (.context ("cleanup " ++ pkg)), o)

end Rig
end WatchTrial
