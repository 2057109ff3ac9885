import WatchTrial.Bench.Event
import WatchTrial.Device.DisplaySize
import WatchTrial.Effect
import WatchTrial.Storage.Files
/-!
# The bench

A bench is what a trial works at: the events so far, the session with the watch, what arrived on its links
and was not read, the automation sessions that are held, the files, and when the run is cancelled. How the
outside answers is a world: it sees the past and the question.
-/
namespace WatchTrial

/-- How the outside answers, depending on what happened before. -/
structure World where
  finds : (program : String) → Bool
  run : (past : List Event) → (argv : List String) → Answer
  /-- Why a command cannot be started, if it cannot. -/
  start : (past : List Event) → (argv : List String) → Option String
  /-- Why a link to a device is refused, if it is. -/
  dial : (past : List Event) → (device : String) → Option String
  write : (past : List Event) → (link : Nat) → (text : String) → Arrival
  request : (past : List Event) → Request → Response
  /-- The file that a pulled screenshot is put into. -/
  scratch : String

/-- A session with a watch. Its size stays as it was at the first connection. -/
structure Session where
  device : String
  size : DisplaySize
  /-- The current link, if it was made with one. -/
  link : Option Nat
  /-- Whether a lost link is replaced. -/
  managed : Bool
deriving Repr, DecidableEq, Inhabited

structure Automator where
  /-- The address of the server, without a slash at its end. -/
  server : String
  handheld : String
  /-- The name of the session, empty when there is none. -/
  session : String
deriving Repr, DecidableEq, Inhabited

structure Bench where
  past : List Event := []
  session : Option Session := none
  /-- What arrived on a link and was not read yet, by its number. -/
  unread : List (Nat × List Char) := []
  /-- The automation sessions that are held, by handheld. -/
  automators : List (String × Automator) := []
  files : Files := .empty
  /-- After how many events the run is cancelled, if it is. -/
  cancelAfter : Option Nat := none
  /-- What a pause says that fails. -/
  stop : Reason := .cancelled
deriving Inhabited

namespace Bench

def note (b : Bench) (e : Event) : Bench := { b with past := b.past ++ [e] }

instance : Sleeper Bench where
  slept d b := b.note (.slept d)
  cancels b := b.cancelAfter.any (· ≤ b.past.length)
  fault b := b.stop.fault

/-- How many links were dialled, refused ones included. -/
def dialCount (past : List Event) : Nat :=
  past.countP fun
    | .dialled .. => true
    | _ => false

/-- Runs a command; what it writes appears among the files. -/
def run (w : World) (argv : List String) (b : Bench) : Answer × Bench :=
  let answer := w.run b.past argv
  let files := match answer.file, argv.getLast? with
    | some content, some path => (b.files.write path content).toOption.getD b.files
    | _, _ => b.files
  (answer, { b.note (.ran argv answer) with files })

def start (w : World) (argv : List String) (b : Bench) : Option String × Bench :=
  let failure := w.start b.past argv
  (failure, b.note (.started argv failure))

/-- Dials a link to a device, which gets the next number. -/
def dial (w : World) (doing : String) (device : String) : Act Bench Nat := fun b =>
  let refusal := w.dial b.past device
  let after := b.note (.dialled device refusal)
  match refusal with
  | some why => (.error (.connectionLost doing (.plain why)), after)
  | none => (.ok (dialCount b.past), after)

def write (w : World) (link : Nat) (text : String) (b : Bench) : Arrival × Bench :=
  (w.write b.past link text, b.note (.sent link text))

/-- Closes a link after saying so to its other end. -/
def close (link : Nat) (b : Bench) : Bench :=
  (b.note (.sent link "done")).note (.closed link)

def request (w : World) (r : Request) (b : Bench) : Response × Bench :=
  let response := w.request b.past r
  (response, b.note (.requested r response))

end Bench

end WatchTrial
