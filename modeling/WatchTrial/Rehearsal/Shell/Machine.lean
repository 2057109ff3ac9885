import WatchTrial.Rehearsal.Shell.Tree
import WatchTrial.Rehearsal.Tool.Table
/-!
# The state of a shell

A shell knows variables, functions and parameters, and where its output goes. Output goes to numbered
buffers, of which the first two are the output and the complaints of the shell itself, or to files.
-/
namespace WatchTrial.Rehearsal.Shell

/-- Where output goes. -/
inductive Sink where
  | buffer (n : Nat)
  | file (path : String)
  | nowhere
deriving Repr, DecidableEq, Inhabited

/-- How a shell goes on. -/
inductive Flow where
  | on
  /-- The shell ends. -/
  | exit
  /-- The function ends. -/
  | giveBack
  /-- Some loops end. -/
  | leave (loops : Nat)
  /-- Some loops but one end, and that one starts again. -/
  | again (loops : Nat)
deriving Repr, DecidableEq, Inhabited

structure Machine where
  /-- The name that complaints start with. -/
  name : Bytes
  line : Nat := 1
  /-- The command that complaints name after the line. -/
  context : Bytes := []
  params : List Bytes := []
  /-- The variables, the latest first. -/
  vars : List (Bytes × Bytes) := []
  exported : List Bytes := []
  /-- The variables that cannot be changed. -/
  fixed : List Bytes := []
  functions : List (Bytes × Tree) := []
  buffers : List Bytes := [[], []]
  sinks : List (Nat × Sink) := [(1, .buffer 0), (2, .buffer 1)]
  input : Bytes := []
  files : Files := .empty
  status : Nat := 0
  flow : Flow := .on
  /-- How many loops are running. -/
  loops : Nat := 0
  /-- Whether a signal has ended the shell. -/
  killed : Bool := false
  /-- Whether the shell ends at the first failure. -/
  endsAtFailure : Bool := false
  /-- Whether the outcome of the command at hand is asked for, so that a failure ends nothing. -/
  asked : Bool := false
  /-- Whether a parameter that is not set is a mistake. -/
  strict : Bool := false
  /-- Whether commands are shown before they run. -/
  traced : Bool := false
  /-- What is run when the shell ends. -/
  atExit : Bytes := []
  /-- The status of the last output that was taken for the command at hand. -/
  outputStatus : Option Nat := none
  /-- How many functions are running. -/
  depth : Nat := 0
deriving Inhabited

/-- The number that stands for the shell among processes. -/
def ownNumber : Bytes := "4242".toList

/-- A number as bytes. -/
def showNat (n : Nat) : Bytes := Nat.toDigits 10 n

namespace Machine

def write (m : Machine) (number : Nat) (bytes : Bytes) : Machine :=
  match m.sinks.lookup number with
  | some (.buffer n) => { m with buffers := m.buffers.modify n (· ++ bytes) }
  | some (.file path) =>
    let old := match m.files.read path with
      | .ok content => content
      | .error _ => .empty
    match m.files.write path (old ++ ⟨(bytes.map fun c => c.toNat.toUInt8).toArray⟩) with
    | .ok files => { m with files }
    | .error _ => m
  | some .nowhere | none => m

/-- Writes what a tool yields, and takes its status. -/
def take (m : Machine) (y : Yield) : Machine := { (m.write 2 y.err).write 1 y.out with status := y.status }

def complain (m : Machine) (text : Bytes) : Machine :=
  m.write 2 (m.name ++ bytesOf ": " ++ showNat m.line ++ bytesOf ": " ++ m.context ++ text ++ ['\n'])

def fail (m : Machine) (text : Bytes) (status : Nat) : Machine := { m.complain text with status }

/-- Complains and ends the shell. -/
def abort (m : Machine) (text : Bytes) : Machine := { m.complain text with status := 2, flow := .exit }

/-- Complains before the first line, and ends the shell. -/
def abortEarly (m : Machine) (text : Bytes) : Machine := { m with line := 0 }.abort text

def var? (m : Machine) (name : Bytes) : Option Bytes := m.vars.lookup name

/-- Sets a variable, if it can be changed. -/
def assign (m : Machine) (name value : Bytes) : Machine :=
  if m.fixed.contains name then m.abort (name ++ bytesOf ": is read only")
  else { m with vars := (name, value) :: m.vars.filter (·.1 != name) }

/-- A shell with the variables of a name as in another one. -/
def restore (m before : Machine) (name : Bytes) : Machine :=
  { m with vars := before.vars.filter (·.1 == name) ++ m.vars.filter (·.1 != name) }

/-- The value of a parameter, apart from the list of all parameters. -/
def value? (m : Machine) (name : Bytes) : Option Bytes :=
  match name with
  | ['?'] => some (showNat m.status)
  | ['#'] => some (showNat m.params.length)
  | ['$'] => some ownNumber
  | ['!'] => none
  | ['-'] => some ((if m.endsAtFailure then ['e'] else []) ++ (if m.strict then ['u'] else []) ++
      (if m.traced then ['x'] else []))
  | ['0'] => some m.name
  | ['@'] | ['*'] => if m.params.isEmpty then none else some ([' '].intercalate m.params)
  | name =>
    if name.all Char.isDigit then m.params[(takeDigits 10 name).1 - 1]?
    else m.var? name

/-- The bytes that divide fields. -/
def dividers (m : Machine) : Bytes := (m.var? "IFS".toList).getD [' ', '\t', '\n']

def environment (m : Machine) : List (Bytes × Bytes) := m.vars.filter fun (name, _) => m.exported.contains name

/-- Opens a buffer for the output. -/
def capture (m : Machine) : Machine :=
  { m with loops := 0, asked := false, buffers := m.buffers ++ [[]], sinks := (1, .buffer m.buffers.length) :: m.sinks }

/-- What the last buffer holds. -/
def captured (m : Machine) : Bytes := m.buffers.getLast?.getD []

/-- A shell goes on after a part of it that ran on its own: only what others see is kept. -/
def resume (m inner : Machine) : Machine :=
  { m with
    buffers := inner.buffers, files := inner.files, status := inner.status, killed := inner.killed
    flow := if inner.killed then .exit else m.flow }

end Machine
end WatchTrial.Rehearsal.Shell
