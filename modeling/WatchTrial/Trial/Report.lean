import WatchTrial.Device.Listing
import WatchTrial.Instant
import WatchTrial.Json.Basic
import WatchTrial.Sensor.Registration
import WatchTrial.Text.Decimal
/-!
# Reports

What a trial leaves behind: its verdict, what it found, and where it stopped when it stopped early.
Fields that say nothing are left out of the written report.
-/
namespace WatchTrial

/-- How a trial ended. -/
inductive Verdict where
  /-- No registration was left behind. -/
  | clean
  /-- Some registration was left behind. -/
  | leak
  /-- The trial stopped before it could tell. -/
  | setupFailed
  /-- Both screenshots were taken. -/
  | captured
deriving Repr, DecidableEq, Inhabited

def Verdict.name : Verdict → String
  | clean => "clean"
  | leak => "leak"
  | setupFailed => "setup-failed"
  | captured => "captured"

inductive Stage where
  | idle
  | snapshotBefore
  | install
  | select
  | act
  | deselect
  | snapshotAfter
  | report
  | cleanup
  | done
deriving Repr, DecidableEq, Inhabited

def Stage.name : Stage → String
  | idle => "IDLE"
  | snapshotBefore => "SNAPSHOT_BEFORE"
  | install => "INSTALL"
  | select => "SELECT"
  | act => "ACT"
  | deselect => "DESELECT"
  | snapshotAfter => "SNAPSHOT_AFTER"
  | report => "REPORT"
  | cleanup => "CLEANUP"
  | done => "DONE"

/-- The report of a leak trial. Texts that say nothing are empty. -/
structure LeakReport where
  runId : String := ""
  pkg : String := ""
  label : String := ""
  verdict : Option Verdict := none
  leaks : List Registration := []
  beforeCount : Int64 := 0
  afterCount : Int64 := 0
  failedStage : Option Stage := none
  error : String := ""
  cleanupError : String := ""
  startedAt : Instant := .yearOne
  elapsed : Int64 := 0
deriving Repr, DecidableEq, Inhabited

/-- The report of a display trial. Texts that say nothing are empty. -/
structure DisplayReport where
  runId : String := ""
  pkg : String := ""
  label : String := ""
  verdict : Option Verdict := none
  interactive : String := ""
  ambient : String := ""
  failedStage : Option Stage := none
  error : String := ""
  cleanupError : String := ""
  startedAt : Instant := .yearOne
  elapsed : Int64 := 0
deriving Repr, DecidableEq, Inhabited

/-- A member that is left out when its text is empty. -/
def Json.optional (name text : String) : List (String × Json) :=
  if text = "" then [] else [(name, .string text)]

def Registration.toJson (r : Registration) : Json :=
  .object [("sensor_type", .string r.sensorType), ("listener", .string r.listener)]

/-- The members of a leak report, apart from its time. -/
def LeakReport.members (r : LeakReport) : List (String × Json) :=
  [("run_id", .string r.runId), ("package", .string r.pkg), ("label", .string r.label),
    ("verdict", .string ((r.verdict.map Verdict.name).getD ""))] ++
  (if r.leaks.isEmpty then [] else [("leaks", .array (r.leaks.map Registration.toJson))]) ++
  [("before_count", .number (Text.showInt64 r.beforeCount)), ("after_count", .number (Text.showInt64 r.afterCount))] ++
  Json.optional "failed_stage" ((r.failedStage.map Stage.name).getD "") ++
  Json.optional "error" r.error ++ Json.optional "cleanup_error" r.cleanupError

/-- The members of a display report, apart from its time. -/
def DisplayReport.members (r : DisplayReport) : List (String × Json) :=
  [("run_id", .string r.runId), ("package", .string r.pkg), ("label", .string r.label),
    ("verdict", .string ((r.verdict.map Verdict.name).getD ""))] ++
  Json.optional "interactive" r.interactive ++ Json.optional "ambient" r.ambient ++
  Json.optional "failed_stage" ((r.failedStage.map Stage.name).getD "") ++
  Json.optional "error" r.error ++ Json.optional "cleanup_error" r.cleanupError

/-- Members followed by when the trial started and how long it took; an instant without a text spoils
the whole report. -/
def Json.timed (members : List (String × Json)) (startedAt : Instant) (elapsed : Int64) : Option Json :=
  startedAt.text?.map fun text =>
    .object (members ++ [("started_at", .string text), ("elapsed", .number (Text.showInt64 elapsed))])

/-- A leak report, when it can be written. -/
def LeakReport.toJson? (r : LeakReport) : Option Json :=
  Json.timed r.members r.startedAt r.elapsed

/-- A display report, when it can be written. -/
def DisplayReport.toJson? (r : DisplayReport) : Option Json :=
  Json.timed r.members r.startedAt r.elapsed

def ListedDevice.toJson (d : ListedDevice) : Json :=
  .object ([("device_id", .string d.id), ("status", .string d.status),
    ("connection_type", .string d.attachment.name)] ++ Json.optional "model" d.model)

end WatchTrial
