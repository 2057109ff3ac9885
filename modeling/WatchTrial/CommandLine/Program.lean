import WatchTrial.CommandLine.Completion
import WatchTrial.CommandLine.EnvFile
import WatchTrial.CommandLine.Terminal
import WatchTrial.Json.Writer
import WatchTrial.Settings.Load
import WatchTrial.Trial.Bench
/-!
# The program

A run reads its options, and then either lists gestures, does a device command, or checks the system and
runs trials. It ends with a status: zero if all went well, two if a leak was found, one if anything else
went wrong.
-/
namespace WatchTrial.CommandLine

/-- When a trial was run, and under which name. -/
structure Stamp where
  runId : String
  startedAt : Instant
  elapsed : Int64
deriving Repr, DecidableEq, Inhabited

structure Invocation where
  args : List String
  vars : List (String × String)
  /-- The stamp of each trial, by its number. -/
  stamp : Nat → Stamp

/-- The status of an interrupted run. -/
def interrupted : Nat := 130

def rule (width : Nat) : String := String.ofList (List.replicate width '-')

/-- A text filled up with blanks at its end. -/
def padEnd (width : Nat) (s : String) : String :=
  s ++ String.ofList (List.replicate (width - s.length) ' ')

def padNumber (width n : Nat) : String :=
  let s := toString n
  String.ofList (List.replicate (width - s.length) ' ') ++ s

open Run

def listGestures : Run Unit := do
  let registry : Registry Bench := .standard
  log .info "Supported events:"
  for name in registry.names do
    log .info "-" [("event", .string name), ("supported", .bool (registry.supports name))]

def deviceLine (d : ListedDevice) : String :=
  "  " ++ (if d.status = "device" then "✅" else "❌") ++ " " ++ padEnd 30 d.id ++ " [" ++ d.attachment.name ++ "]" ++
    (if d.model = "" then "" else " (" ++ d.model ++ ")")

def listDevices (w : World) (adb : Adb) : Run Unit := do
  let devices := (← atBench (adb.listDevices w)).toOption.getD []
  if devices.isEmpty then log .info "No devices connected."
  else
    log .info "Connected devices:"
    log .info (rule 60)
    for d in devices do
      log .info "" [("device", .string (deviceLine d))]

def connectDevice (w : World) (adb : Adb) (address : String) : Run Unit := do
  log .info ("Connecting to " ++ address ++ "...")
  let (words, outcome) ← atBench (adb.connect w address)
  match outcome with
  | .error _ => log .error "❌" [("msg", .string words)]
  | .ok _ => log .info "✅" [("msg", .string words)]

/-- Disconnects a device, or all of them. -/
def disconnectDevice (w : World) (adb : Adb) (address : String) : Run Unit := do
  log .info (if address = "all" then "Disconnecting all remote devices..."
    else "Disconnecting from " ++ address ++ "...")
  let (words, outcome) ← atBench (adb.disconnect w (if address = "all" then "" else address))
  match outcome with
  | .error _ => log .info ("❌ " ++ words)
  | .ok _ => log .info ("✅ " ++ words)

def checkProgram (w : World) (adb : Adb) (path : String) : Run Bool := do
  log .info "1. Checking ADB installation... "
  if ! w.finds path then
    log .error "❌ FAILED"
    log .info ("   Error: " ++ path ++ " is not installed or not in PATH.")
    log .info "     - macOS: brew install android-platform-tools"
    log .info "     - Linux: sudo apt install android-tools-adb"
    return false
  let (output, outcome) ← atBench (adb.runChecked w "" ["version"])
  match outcome with
  | .error fault =>
    log .error "❌ FAILED"
    log .info ("   Error: adb command failed to run: " ++ fault.message)
    return false
  | .ok _ =>
    let version := String.ofList (Text.trimChars (output.stdout.toList.takeWhile (· != '\n')))
    log .info ("✅ OK (" ++ (if version = "" then "installed" else version) ++ ")")
    return true

def checkHandheld (w : World) (adb : Adb) (serial : String) : Run Bool := do
  log .info "2. Checking handheld... "
  if ← atBench (adb.isConnected w serial) then
    log .info ("✅ OK (" ++ serial ++ ")")
    return true
  else
    log .error "❌ FAILED"
    log .info ("   Error: handheld " ++ serial ++ " is not connected.")
    log .info "   Solution: enable USB debugging on the handheld and authorize this computer"
    return false

def checkSystem (w : World) (adb : Adb) (s : Settings) : Run Bool := do
  log .info "🔍 Checking system requirements..."
  log .info (rule 50)
  if ! (← checkProgram w adb s.adbPath) then return false
  if ! (← checkHandheld w adb s.handheldSerial) then return false
  log .info (rule 50)
  log .info "✅ All system checks passed!"
  return true

/-- The status after a trial: a leak counts most, and a failure more than success. -/
def statusAfter (status : Nat) (verdict : Option Verdict) (failed : Bool) : Nat :=
  if verdict = some .leak then 2 else if failed && status == 0 then 1 else status

/-- Runs a trial, and gives its report, its verdict and whether it failed. -/
def trial (rig : Rig Bench) (test pkg : String) (stamp : Stamp) (scene : Scene Bench) :
    (String × Option Verdict × Bool) × Scene Bench :=
  let written (report : Option Json) : String := (report.map Json.indented).getD ""
  if test = "display" then
    let ((report, outcome), scene) := rig.runDisplay pkg scene
    let report := { report with runId := stamp.runId, startedAt := stamp.startedAt, elapsed := stamp.elapsed }
    ((written report.toJson?, report.verdict, ! outcome.isOk), scene)
  else
    let ((report, outcome), scene) := rig.runLeak pkg scene
    let report := { report with runId := stamp.runId, startedAt := stamp.startedAt, elapsed := stamp.elapsed }
    ((written report.toJson?, report.verdict, ! outcome.isOk), scene)

/-- Runs trials one after the other, whatever becomes of them, and prints their reports. -/
def trials (rig : Rig Bench) (inv : Invocation) (test : String) :
    (number : Nat) → (status : Nat) → List String → Run Nat
  | _, status, [] => return status
  | number, status, pkg :: rest => do
    if (← get).scene.interrupted then
      log .warn "interrupted"
      return interrupted
    log .info ("[" ++ padNumber 5 (number + 1) ++ "] " ++ pkg)
    let (report, verdict, failed) ← inScene (trial rig test pkg (inv.stamp number))
    print report
    trials rig inv test (number + 1) (statusAfter status verdict failed) rest

/-- The packages to test: those that were named, or for display trials those that are not done. -/
def packagesToTest (s : Settings) (test : String) (named : List String) (files : Files) :
    Except Fault (List String) :=
  if named.isEmpty && test == "display" then s.displayQueue files else .ok named

def runTrials (w : World) (c : Connector) (inv : Invocation) (s : Settings) (labels : Labels)
    (test : String) (named : List String) (session : Session) : Run Nat := do
  match packagesToTest s test named (← get).scene.outside.files with
  | .error fault =>
    log .error "reading apk list failed" [("error", .string fault.message)]
    return 1
  | .ok [] =>
    log .error "no package to test"
    return 1
  | .ok pkgs => trials (Rig.atBench w c s labels session) inv test 0 0 pkgs

/-- Ends the sessions with the handheld and the watch. -/
def hangUp (w : World) : Run Unit := do
  match ← atBench (Bench.closeAutomators w) with
  | .error fault => log .warn "close companion sessions" [("error", .string fault.message)]
  | .ok _ => pure ()
  let _ ← atBench Session.close

def connectAndRun (w : World) (adb : Adb) (inv : Invocation) (s : Settings) (test : String)
    (named : List String) : Run Nat := do
  match Labels.load (← get).scene.outside.files s.labelsFile with
  | .error fault =>
    log .error "loading watch face labels failed" [("error", .string fault.message)]
    return 1
  | .ok labels =>
    let c : Connector := ⟨adb, adb.dialServer w s.monkeyPort, s.timeouts.reconnectDelay⟩
    match ← inScene (c.connect w s.wearSerial) with
    | .error fault =>
      log .error "connecting wearable failed" [("error", .string fault.message)]
      return 1
    | .ok session =>
      let _ ← inScene session.use
      let status ← runTrials w c inv s labels test named session
      hangUp w
      return status

def perform (w : World) (inv : Invocation) (o : Options) (s : Settings) (named : List String) : Run Nat := do
  log .debug "harness config" [("config", .string s.toJson.compact)]
  let adb := Adb.ofPath s.adbPath s.listeners
  if o.listDevices then
    listDevices w adb
    return 0
  if o.connect ≠ "" then
    connectDevice w adb o.connect
    return 0
  if o.disconnect ≠ "" then
    disconnectDevice w adb o.disconnect
    return 0
  match s.problem? with
  | some problem =>
    log .error "invalid config" [("error", .string problem.message)]
    return 1
  | none =>
    if ← checkSystem w adb s then connectAndRun w adb inv s o.test named
    else
      log .info (rule 50)
      log .error "❌ System check failed. Please fix the issues above."
      return 1

/-- The level of log lines that options ask for. -/
def Options.level (o : Options) : Level :=
  if o.debug then .debug else if o.quiet then .warn else .info

/-- The settings of a run: those of the settings file, with the options laid over them. -/
def Reading.settings (files : Files) (value : String → String) (r : Reading Options) : Except Fault Settings :=
  (Settings.load files value r.options.configFile).map fun s => r.options.lay value r.given s

def proceed (w : World) (inv : Invocation) (value : String → String) (r : Reading Options) (named : List String) :
    Run Nat := do
  modify fun t => { t with threshold := r.options.level }
  if r.options.listEvents then
    listGestures
    return 0
  match r.settings (← get).scene.outside.files value with
  | .error fault =>
    log .error "loading config failed" [("error", .string fault.message)]
    return 1
  | .ok s => perform w inv r.options s named

/-- Complains about a command line, once where it was read and once at the end of the run. -/
def refuse (why : String) : Run Nat := do
  complain why
  complain why
  return 1

/-- What is wrong with the trial that options ask for, if there is no such trial. -/
def Options.badTest? (o : Options) : Option String :=
  if o.test = "sensor" ∨ o.test = "display" then none
  else some ("invalid test option: " ++ o.test ++ ". Must be 'sensor' or 'display'")

def describes (value : String → String) (described : Bool) : Bool :=
  described && (Options.boolOf? (value "WEARPROBE_COMPLETION_DESCRIPTIONS")).getD true

/-- Suggests how a line goes on, and goes on with what the line sets. -/
def suggest (w : World) (inv : Invocation) (value : String → String) (described : Bool) (line : List String) :
    Run Nat := do
  let start := Options.initial value
  if line.isEmpty then refuse "requires at least 1 arg(s), only received 0"
  else
    match start.badTest? with
    | some why => refuse why
    | none =>
      let (suggestion, r) := Suggestion.ofLine value line { options := start }
      write (suggestion.text (describes value described))
      proceed w inv value r []

/-- Why a command that was read cannot be run, if it cannot. -/
def Command.refusal? (c : Command) (r : Reading Options) : Option String :=
  match c, r.words with
  | .script shell, word :: _ =>
    some ("unknown command " ++ Text.quote word ++ " for " ++ Text.quote ("wearprobe completion " ++ shell.name))
  | _, _ => r.options.badTest?

/-- Runs a command other than that for suggestions. Help is shown if it is asked for, and by the command for
completion always; a completion script itself is not part of this program. -/
def obey (w : World) (inv : Invocation) (value : String → String) (c : Command) (line : List String) : Run Nat := do
  let r := Flag.readAll (c.flags value) (Options.initial value) line
  match r.fault with
  | some fault => refuse fault.message
  | none =>
    if r.options.help ∨ c = .completion then
      write (c.helpText value)
      proceed w inv value r []
    else
      match c.refusal? r with
      | some why => refuse why
      | none => proceed w inv value r (if c = .main then r.words else [])

def program (w : World) (inv : Invocation) : Run Nat := do
  let (found, trouble) := EnvFile.load (← get).scene.outside.files ".env"
  if let some why := trouble then
    log .warn "load .env failed" [("error", .string why)]
  let value := EnvFile.value inv.vars found
  match Command.called (Options.commonFlags value) inv.args with
  | (.suggest described, line) => suggest w inv value described line
  | (c, line) => obey w inv value c line

end WatchTrial.CommandLine
