import WatchTrial.Trial.Rig
/-!
# Running trials

A leak trial compares the sensor registrations before a watch face was used with those after it was left.
A display trial saves two screenshots of a watch face. Whatever happens, the package is removed from both
devices at the end.
-/
namespace WatchTrial

/-- How a trial went: what it found, the step that failed, and what went wrong at the end. -/
structure Course where
  pkg : String
  draft : Draft
  failure : Option (Step × Fault)
  cleanup : Option Fault
deriving Inhabited

namespace Course

/-- The fault that ended a trial early. -/
def outcome (c : Course) : Except Fault Unit :=
  match c.failure with
  | some (_, fault) => .error fault
  | none => .ok ()

/-- The stage in which a trial failed. -/
def failedStage (c : Course) : Option Stage := c.failure.map fun (step, _) => step.stage

/-- The text of the fault that ended a trial early. -/
def error (c : Course) : String := (c.failure.map fun (_, fault) => fault.message).getD ""

/-- The text of what went wrong at the end. -/
def cleanupError (c : Course) : String := (c.cleanup.map Fault.message).getD ""

/-- The label of the watch face, once it was made current. -/
def label (c : Course) : String := if c.failedStage = some .select then "" else c.draft.label

/-- The registrations that were left behind. -/
def leaks (c : Course) : Snapshot := c.draft.after.difference c.draft.before

def leakVerdict (c : Course) : Verdict :=
  if c.failure.isSome then .setupFailed
  else if c.leaks.size = 0 then .clean
  else .leak

def leakReport (c : Course) : LeakReport where
  pkg := c.pkg
  label := c.label
  verdict := some c.leakVerdict
  leaks := if c.failure.isSome then [] else c.leaks.elements
  beforeCount := Int64.ofNat c.draft.before.size
  afterCount := Int64.ofNat c.draft.after.size
  failedStage := c.failedStage
  error := c.error
  cleanupError := c.cleanupError

def displayVerdict (c : Course) : Verdict :=
  if c.failure.isSome then .setupFailed else .captured

def displayReport (c : Course) : DisplayReport where
  pkg := c.pkg
  label := c.label
  verdict := some c.displayVerdict
  interactive := c.draft.interactive
  ambient := c.draft.ambient
  failedStage := c.failedStage
  error := c.error
  cleanupError := c.cleanupError

end Course

namespace Rig

variable {ω : Type} (rig : Rig ω)

/-- Takes the steps of a trial and cleans up. -/
def run (steps : List Step) (pkg : String) (scene : Scene ω) : Course × Scene ω :=
  let ((draft, failure), scene) := rig.takeAll pkg steps {} scene
  let (cleanup, outside) := rig.cleanUp pkg scene.outside
  (⟨pkg, draft, failure, cleanup⟩, { scene with outside })

def runLeak (pkg : String) (scene : Scene ω) : (LeakReport × Except Fault Unit) × Scene ω :=
  let (c, scene) := rig.run leakSteps pkg scene
  ((c.leakReport, c.outcome), scene)

def runDisplay (pkg : String) (scene : Scene ω) : (DisplayReport × Except Fault Unit) × Scene ω :=
  let (c, scene) := rig.run displaySteps pkg scene
  ((c.displayReport, c.outcome), scene)

end Rig
end WatchTrial
