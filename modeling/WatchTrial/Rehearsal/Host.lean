import WatchTrial.Device.Adb
import WatchTrial.Rehearsal.Script
import WatchTrial.Rehearsal.Shell.Run
/-!
# A host

A host knows some programs of its own, and one that a script answers for, which stands in the working
directory. A program named without a slash is looked up along the search path; any other name leads to
the program directly.
-/
namespace WatchTrial.Rehearsal

/-- A host: its files, the directories of its search path, and whether it has the scripted program. -/
structure Host where
  files : Files := .empty
  searchPath : List String := ["/usr/bin", "/bin"]
  scripted : Bool := false
deriving Inhabited

namespace Host

/-- Where the scripted program stands. -/
def scriptedPlace : Place := ["adb"]

def programDirs : List String := ["/bin", "/usr/bin"]

def programs : List String := "sh" :: tools.map (·.1)

def isProgram (path : String) : Bool :=
  programDirs.contains (Path.dir path) && programs.contains (Path.base path)

/-- The files of the host, the scripted program included. -/
def allFiles (h : Host) : Files :=
  if h.scripted then h.files.put scriptedPlace (.file .empty) else h.files

def isScripted (h : Host) (path : String) : Bool :=
  h.scripted && (match h.allFiles.resolve path with
    | .ok place => place == scriptedPlace
    | .error _ => false)

def runnable (h : Host) (path : String) : Bool := isProgram path || h.isScripted path

/-- The path that a name without a slash stands for. -/
def lookUp? (h : Host) (name : String) : Option String :=
  if name = "" then none
  else (h.searchPath.map fun dir => Path.join (if dir = "" then "." else dir) name).find? h.runnable

def finds (h : Host) (name : String) : Bool :=
  if name.contains '/' then h.runnable name
  else
    match h.lookUp? name with
    | some path => path.startsWith "/"
    | none => false

/-- Why there is no program of a name, if there is none. A name with a slash is not looked up. -/
def refusal? (h : Host) (name : String) : Option String :=
  if name = "" then some "exec: no command"
  else if name.contains '/' then none
  else
    match h.lookUp? name with
    | none => some ("exec: " ++ Text.quote name ++ ": executable file not found in $PATH")
    | some path =>
      if path.startsWith "/" then none
      else some ("exec: " ++ Text.quote name ++ ": cannot run executable found relative to current directory")

/-- Why the program at a path cannot be run with arguments, if it cannot. -/
def startFault? (h : Host) (path : String) (args : List String) : Option String :=
  let fault (why : String) : Option String := some ("fork/exec " ++ path ++ ": " ++ why)
  if path.contains '\x00' ∨ args.any (·.contains '\x00') then fault FileFault.invalid.message
  else if h.runnable path then none
  else
    match h.allFiles.find path with
    | .ok _ => fault "permission denied"
    | .error why =>
      fault (if programDirs.contains path || path == "/usr" then "permission denied" else why.message)

def pathOf (h : Host) (name : String) : String :=
  if name.contains '/' then name else (h.lookUp? name).getD name

/-- Why a command cannot be started, if it cannot. -/
def fault? (h : Host) (argv : List String) : Option String :=
  (h.refusal? (argv.headD "")).or (h.startFault? (h.pathOf (argv.headD "")) (argv.drop 1))

def ownAnswer (h : Host) (name : String) (args : List String) : Answer :=
  if Path.base name = "sh" then
    let m := Shell.start (bytesOf name) (args.map bytesOf) h.allFiles
    { stdout := textOf (m.buffers.getD 0 []), stderr := textOf (m.buffers.getD 1 [])
      exit := if m.killed then -1 else Int64.ofInt m.status }
  else
    match tool? (Path.base name) with
    | some tool =>
      let y := tool { name := bytesOf name, args := args.map bytesOf, files := h.allFiles }
      { stdout := textOf y.out, stderr := textOf y.err, exit := Int64.ofInt y.status }
    | none => {}

/-- What a program answers that the script does not answer for. -/
def answer (h : Host) (argv : List String) : Answer :=
  match argv with
  | [] => { failure := some (.because "empty command") }
  | name :: args =>
    match h.fault? argv with
    | some why => { exit := -1, failure := some (.because why) }
    | none => h.ownAnswer name args

/-- The outcome of a command that is started: its output, and why it could not run. -/
def outcome (h : Host) (argv : List String) : Output × Except Fault Unit :=
  let answer := h.answer argv
  (⟨argv, answer.stdout, answer.stderr, answer.exit⟩,
    match answer.failure with
    | some why => .error why.fault
    | none => .ok ())

/-- The outcome of running a command directly. A run that has been cancelled looks its program up, but does
not start it. -/
def execute (h : Host) (cancelled : Bool) (argv : List String) : Output × Except Fault Unit :=
  if cancelled ∧ argv ≠ [] ∧ (h.refusal? (argv.headD "")).isNone then (⟨argv, "", "", -1⟩, .error .canceled)
  else h.outcome argv

def callsScripted (h : Host) (argv : List String) : Bool :=
  (argv.headD "").contains '/' && h.isScripted (argv.headD "")

/-- The world of a host whose script answers for one program. -/
def world (h : Host) (s : Script) (scratch : String) : World :=
  { s.world scratch with
    finds := h.finds
    run := fun past argv =>
      if h.callsScripted argv then s.runAnswer past argv else h.answer argv
    start := fun _ argv => h.fault? argv }

end Host
end WatchTrial.Rehearsal
