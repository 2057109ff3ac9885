import WatchTrial.Bench.Basic
import WatchTrial.Sensor.Filter
import WatchTrial.Text.Blank
/-!
# Running device commands

A command is run for one device, or for the default one. What it printed is given back even when it
failed. A command that ends with a status other than zero counts as failed where it is checked, and one
that is retried runs once more after a failure.
-/
namespace WatchTrial

/-- What a command printed, and how it ended. -/
structure Output where
  args : List String := []
  stdout : String := ""
  stderr : String := ""
  exit : Int64 := 0
deriving Repr, DecidableEq, Inhabited

namespace Output

/-- Whether the command ended with status zero. -/
def succeeded (o : Output) : Bool := o.exit == 0

def commandLine (o : Output) : String := " ".intercalate o.args

end Output

/-- The program that runs device commands, and the listeners that do not count on a device. -/
structure Adb where
  program : String := "adb"
  filter : ListenerFilter := .platform
deriving Repr, DecidableEq, Inhabited

/-- What a command gives: its output, and whether it counts as done. -/
abbrev Ran := StateM Bench (Output × Except Fault Unit)

/-- The output of a command that has to be done. -/
def Ran.output (r : Ran) : Act Bench Output := fun b =>
  let ((output, outcome), b) := r b
  (outcome.map fun _ => output, b)

namespace Adb

/-- The program at a path; an empty path stands for the usual name. -/
def ofPath (path : String) (filter : ListenerFilter) : Adb :=
  ⟨if path = "" then "adb" else path, filter⟩

/-- The words of a command for a device; an empty name stands for the default device. -/
def command (adb : Adb) (device : String) (args : List String) : List String :=
  adb.program :: (if device = "" then args else "-s" :: device :: args)

/-- Runs a command. It fails only if it could not run at all. -/
def execute (w : World) (argv : List String) : Ran := fun b =>
  let (answer, b) := b.run w argv
  let output : Output := ⟨argv, answer.stdout, answer.stderr, answer.exit⟩
  match answer.failure with
  | some why => ((output, .error (.commandFailed (" ".intercalate argv) why.fault)), b)
  | none => ((output, .ok ()), b)

/-- The fault of a command that ended with another status than zero. -/
def badStatus (o : Output) (printed : String) : Fault :=
  .commandFailed o.commandLine
    (.plain ("exit status " ++ Text.showInt64 o.exit ++ ": " ++ Text.trim printed))

/-- Runs a command that has to end with status zero. -/
def check (w : World) (argv : List String) : Ran := fun b =>
  match execute w argv b with
  | ((output, .ok _), b) =>
    ((output, if output.succeeded then .ok () else .error (badStatus output output.stderr)), b)
  | failed => failed

/-- Runs a command that has to end with status zero and, if it fails, exactly once more. -/
def retry (w : World) (argv : List String) : Ran := fun b =>
  let attempt : Act (Output × Bench) Unit := fun (_, b) =>
    let ((output, outcome), b) := check w argv b
    (outcome, output, b)
  let (outcome, output, b) := retryOnce (" ".intercalate argv) attempt (default, b)
  ((output, outcome), b)

def run (w : World) (adb : Adb) (device : String) (args : List String) : Ran :=
  execute w (adb.command device args)

/-- Runs a command for a device that has to end with status zero. -/
def runChecked (w : World) (adb : Adb) (device : String) (args : List String) : Ran :=
  check w (adb.command device args)

end Adb

end WatchTrial
