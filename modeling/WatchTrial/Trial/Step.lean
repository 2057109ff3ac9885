import WatchTrial.Trial.Report
/-!
# The steps of a trial

A trial is a fixed list of steps. Each step belongs to a stage, and a trial that fails is said to fail in
the stage of the step that failed.
-/
namespace WatchTrial

inductive Target where
  | handheld
  | wearable
deriving Repr, DecidableEq, Inhabited

/-- The two screenshots of a display trial. -/
inductive Phase where
  | interactive
  | ambient
deriving Repr, DecidableEq, Inhabited

def Phase.name : Phase → String
  | interactive => "interactive"
  | ambient => "ambient"

inductive Step where
  /-- Checks that every gesture of the script can be played. -/
  | checkScript
  | clearLog
  | readSensorsBefore
  | install (target : Target)
  /-- Waits after an installation. -/
  | settleInstall
  | findLabel
  | select
  /-- Wakes the watch after its face was selected. -/
  | wake
  | settleSelection
  /-- Wakes the watch again, so that it shows its face. -/
  | wakeAgain
  | playScript
  | deselect
  /-- Waits after the face was left. -/
  | settleDeselection
  | readSensorsAfter
  | takeScreenshot (phase : Phase)
  | saveScreenshot (phase : Phase)
  /-- Waits until the watch dims its display. -/
  | awaitAmbient
deriving Repr, DecidableEq, Inhabited

def Step.stage : Step → Stage
  | checkScript | clearLog => .idle
  | readSensorsBefore => .snapshotBefore
  | install _ | settleInstall => .install
  | findLabel | select | wake | settleSelection | wakeAgain => .select
  | playScript | takeScreenshot _ | saveScreenshot _ | awaitAmbient => .act
  | deselect | settleDeselection => .deselect
  | readSensorsAfter => .snapshotAfter

/-- The steps that bring a package onto both devices and make its watch face current. -/
def activationSteps : List Step :=
  [.install .handheld, .settleInstall, .install .wearable, .settleInstall,
    .findLabel, .select, .wake, .settleSelection, .wakeAgain]

def leakSteps : List Step :=
  [.checkScript, .clearLog, .readSensorsBefore] ++ activationSteps ++
    [.playScript, .deselect, .settleDeselection, .readSensorsAfter]

def displaySteps : List Step :=
  activationSteps ++
    [.takeScreenshot .interactive, .saveScreenshot .interactive, .awaitAmbient,
      .takeScreenshot .ambient, .saveScreenshot .ambient]

end WatchTrial
