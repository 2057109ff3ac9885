import WatchTrial.Bench.Basic
import WatchTrial.CommandLine.Log
/-!
# The terminal of a run

A run of the program works at a bench and writes to a terminal: reports and help texts, complaints about
the command line, and log lines of a level that is not too low.
-/
namespace WatchTrial.CommandLine

/-- A run of the program so far. -/
structure Terminal where
  scene : Scene Bench
  /-- The lowest level of log lines that are written. -/
  threshold : Level := .debug
  logs : List LogLine := []
  printed : String := ""
  complaints : String := ""
deriving Inhabited

abbrev Run := StateM Terminal

namespace Run

/-- Writes log lines, apart from those of too low a level. -/
def logAll (lines : List LogLine) : Run Unit :=
  modify fun t =>
    { t with logs := t.logs ++ lines.filter fun line => t.threshold.rank ≤ line.level.rank }

def log (level : Level) (message : String) (fields : List (String × Json) := []) : Run Unit :=
  logAll [⟨level, message, fields⟩]

def write (text : String) : Run Unit :=
  modify fun t => { t with printed := t.printed ++ text }

/-- Prints a text and ends the line. -/
def print (text : String) : Run Unit := write (text ++ "\n")

def complain (text : String) : Run Unit :=
  modify fun t => { t with complaints := t.complaints ++ "Error: " ++ text ++ "\n" }

/-- Does something in the scene of the run, and logs what happened. -/
def inScene {α : Type} (f : Scene Bench → α × Scene Bench) : Run α := do
  let before := (← get).scene
  let (a, after) := f before
  modify fun t => { t with scene := after }
  logAll ((after.outside.past.drop before.outside.past.length).flatMap LogLine.ofEvent)
  return a

/-- Does something at the bench, and logs what happened. -/
def atBench {α : Type} (f : Bench → α × Bench) : Run α :=
  inScene fun scene =>
    let (a, outside) := f scene.outside
    (a, { scene with outside })

end Run
end WatchTrial.CommandLine
