import WatchTrial.Bench.Event
/-!
# Log lines

The program tells what it does in log lines, each with a level, a message and further fields. A message
that says nothing is left out.
-/
namespace WatchTrial.CommandLine

/-- How much a log line matters. -/
inductive Level where
  | debug
  | info
  | warn
  | error
deriving Repr, DecidableEq, Inhabited

namespace Level

def name : Level → String
  | debug => "debug"
  | info => "info"
  | warn => "warn"
  | error => "error"

def rank : Level → Nat
  | debug => 0
  | info => 1
  | warn => 2
  | error => 3

end Level

structure LogLine where
  level : Level
  message : String := ""
  fields : List (String × Json) := []
deriving Inhabited

def LogLine.toJson (line : LogLine) : Json :=
  .object (("level", .string line.level.name) :: line.fields ++
    (if line.message = "" then [] else [("message", .string line.message)]))

/-- The log lines of an event: commands are announced, and those that could not run are reported. -/
def LogLine.ofEvent : Event → List LogLine
  | .ran argv answer =>
    ⟨.debug, "", [("cmd", .string ("[Run] run cmd: " ++ " ".intercalate argv))]⟩ ::
      match answer.failure with
      | some why =>
        [⟨.error, "[Run] run cmd failed", [("error", .string why.fault.message), ("argv", .array (argv.map .string))]⟩]
      | none => []
  | .started argv _ =>
    [⟨.debug, "", [("cmd", .string ("[StartMonkey] run cmd: " ++ " ".intercalate argv))]⟩]
  | _ => []

end WatchTrial.CommandLine
