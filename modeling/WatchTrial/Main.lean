import WatchTrial.CommandLine.Program
/-!
# The command line

Reads what a run of the program can ask for, runs it, and writes what it wrote. No program can be started
and no link dialled from here, so device commands fail as on a machine without the device program.
-/
namespace WatchTrial.CommandLine

/-- A world in which nothing outside can be reached. -/
def offline : World where
  finds _ := false
  run _ argv :=
    { exit := -1
      failure := some (.because
        ("exec: " ++ Text.quote (argv.headD "") ++ ": executable file not found in $PATH")) }
  start _ argv := some ("exec: " ++ Text.quote (argv.headD "") ++ ": executable file not found in $PATH")
  dial _ _ := some "connection refused"
  write _ _ _ := .unsent "connection refused"
  request _ _ := .failed "connection refused"
  scratch := ""

/-- The variables that options come from. -/
def optionVariables : List String :=
  ["WEARPROBE_CONFIG", "WEARPROBE_ADB", "WEARPROBE_WEAR_SERIAL", "WEARPROBE_HANDHELD_SERIAL",
    "WEARPROBE_MONKEY_PORT", "WEARPROBE_APPIUM_URL", "WEARPROBE_TEST", "WEARPROBE_SCRIPT",
    "WEARPROBE_COMPLETION_DESCRIPTIONS"]

/-- The names that a text may refer to. -/
def namesIn (text : String) : List String :=
  ((text.toList.splitOnP fun c => ! Variables.isNameChar c).filter (! ·.isEmpty)).map String.ofList

/-- The settings file that a run uses. -/
def configPath (files : Files) (vars : List (String × String)) (args : List String) : String :=
  let value := EnvFile.value vars (EnvFile.load files ".env").1
  let (c, line) := Command.called (Options.commonFlags value) args
  (Flag.readAll (c.flags value) (Options.initial value) line).options.configFile

/-- The settings that a run uses, as far as they can be read. -/
def settingsFor (files : Files) (vars : List (String × String)) (path : String) : Settings :=
  (Settings.load files (EnvFile.value vars (EnvFile.load files ".env").1) path).toOption.getD {}

/-- Adds a file of the machine, if it can be read. -/
def gather (files : Files) (path : String) : IO Files := do
  try
    let content ← IO.FS.readBinFile path
    let files := (files.makeDirectories (Path.dir path)).toOption.getD files
    return (files.write path content).toOption.getD files
  catch _ => return files

def variablesNamed (names : List String) : IO (List (String × String)) := do
  let found ← names.mapM fun name => do return (← IO.getEnv name).map (name, ·)
  return found.filterMap id

end WatchTrial.CommandLine

open WatchTrial WatchTrial.CommandLine in
def main (args : List String) : IO UInt32 := do
  let files ← gather .empty ".env"
  let named ← variablesNamed optionVariables
  let path := configPath files named args
  let files ← gather files path
  let text := Text.ofBytes ((files.read path).toOption.getD .empty).toList
  let vars := named ++ (← variablesNamed (namesIn text))
  let s := settingsFor files vars path
  let files ← gather (← gather files s.labelsFile) s.apkListFile
  let inv : Invocation := ⟨args, vars, fun n => ⟨toString n, .yearOne, 0⟩⟩
  let (status, t) := program offline inv { scene := { left := 0, outside := { files } } }
  IO.print t.printed
  IO.eprint t.complaints
  for line in t.logs do
    IO.eprintln line.toJson.compact
  return status.toUInt32
