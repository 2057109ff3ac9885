import WatchTrial.CommandLine.Flag
import WatchTrial.Settings.Basic
import WatchTrial.Text.Literal
import WatchTrial.Text.Record
/-!
# The options of the program

Every option is a flag; most have a variable that gives their default. An option that was given, or whose
variable is set, wins over the settings file.
-/
namespace WatchTrial.CommandLine

structure Options where
  configFile : String := ""
  adbPath : String := "adb"
  wearSerial : String := ""
  handheldSerial : String := ""
  monkeyPort : Int64 := 0
  appiumUrl : String := ""
  test : String := "sensor"
  script : Option (List String) := none
  /-- Whether the script was given as a flag. -/
  scriptGiven : Bool := false
  connect : String := ""
  disconnect : String := ""
  listDevices : Bool := false
  listEvents : Bool := false
  quiet : Bool := false
  debug : Bool := false
  help : Bool := false
deriving Repr, DecidableEq, Inhabited

namespace Options

variable (value : String → String)

/-- The value of a variable, or a default if it is empty. -/
def variableOr (name default : String) : String :=
  if value name = "" then default else value name

/-- The number in a variable, or a default if it holds none. -/
def numberOr (name : String) (default : Int64) : Int64 :=
  match Text.readInt64 (value name).toList with
  | .ok n => n
  | .error _ => default

/-- The items in a variable, between commas. -/
def itemsIn (name : String) : Option (List String) :=
  if value name = "" then none
  else some (((value name).toList.splitOn ',').map String.ofList)

/-- The options before any flag is read. -/
def initial : Options :=
  let defaults : Settings := {}
  { configFile := value "WEARPROBE_CONFIG"
    adbPath := variableOr value "WEARPROBE_ADB" defaults.adbPath
    wearSerial := variableOr value "WEARPROBE_WEAR_SERIAL" defaults.wearSerial
    handheldSerial := value "WEARPROBE_HANDHELD_SERIAL"
    monkeyPort := numberOr value "WEARPROBE_MONKEY_PORT" defaults.monkeyPort
    appiumUrl := variableOr value "WEARPROBE_APPIUM_URL" defaults.appiumUrl
    test := variableOr value "WEARPROBE_TEST" "sensor"
    script := itemsIn value "WEARPROBE_SCRIPT" }

def setText (put : String → Options → Options) (v : String) (o : Options) : Except String Options :=
  .ok (put v o)

def setNumber (put : Int64 → Options → Options) (v : String) (o : Options) : Except String Options :=
  match Text.Literal.read v.toList with
  | .ok n => .ok (put n o)
  | .error fault => .error ("strconv.ParseInt: parsing " ++ Text.quote v ++ ": " ++ fault.message)

def boolOf? (v : String) : Option Bool :=
  if ["1", "t", "T", "true", "TRUE", "True"].contains v then some true
  else if ["0", "f", "F", "false", "FALSE", "False"].contains v then some false
  else none

def setSwitch (put : Bool → Options → Options) (v : String) (o : Options) : Except String Options :=
  match boolOf? v with
  | some b => .ok (put b o)
  | none => .error ("strconv.ParseBool: parsing " ++ Text.quote v ++ ": invalid syntax")

def itemsOf (v : String) : Except String (List String) :=
  if v = "" then .ok []
  else
    match Text.Record.strictFirst v with
    | .record fields => .ok fields
    | .refused why => .error why.message
    | .none => .error "EOF"

/-- Sets the script; the first time it replaces the default, afterwards it is added to. -/
def setScript (v : String) (o : Options) : Except String Options := do
  let items ← itemsOf v
  return { o with
    script := some (if o.scriptGiven then o.script.getD [] ++ items else items)
    scriptGiven := true }

/-- A text default as it is shown. -/
def shownText (v : String) : Option String := if v = "" then none else some (Text.quote v)

/-- A number default as it is shown. -/
def shownNumber (n : Int64) : Option String := if n = 0 then none else some (Text.showInt64 n)

/-- A list default as it is shown. -/
def shownItems (items : Option (List String)) : Option String :=
  let text := ",".intercalate ((items.getD []).map Text.Record.field)
  if text = "" then none else some ("[" ++ text ++ "]")

def helpFlag (command : String) : Flag Options :=
  { name := "help", letter := some 'h', usage := "help for " ++ command,
    set := setSwitch fun v o => { o with help := v } }

/-- The flags of all commands, in ascending order. -/
def commonFlags : List (Flag Options) :=
  let start := initial value
  [{ name := "adb", takes := "string", usage := "Path of the adb binary", shown := shownText start.adbPath,
      set := setText fun v o => { o with adbPath := v } },
    { name := "appium-url", takes := "string", usage := "Appium server driving the handheld companion app",
      shown := shownText start.appiumUrl, set := setText fun v o => { o with appiumUrl := v } },
    { name := "config", takes := "string", usage := "YAML harness config file",
      shown := shownText start.configFile, set := setText fun v o => { o with configFile := v } },
    { name := "connect", letter := some 'c', takes := "string",
      usage := "Connect to remote device (e.g., 127.0.0.1:4444)",
      set := setText fun v o => { o with connect := v } },
    { name := "debug", usage := "Enable debug mode (default: false)",
      set := setSwitch fun v o => { o with debug := v } },
    { name := "disconnect", takes := "string",
      usage := "Disconnect from remote device (or 'all' to disconnect all)",
      set := setText fun v o => { o with disconnect := v } },
    { name := "handheld-serial", letter := some 'p', takes := "string", usage := "Handheld device id",
      shown := shownText start.handheldSerial, set := setText fun v o => { o with handheldSerial := v } },
    { name := "list-devices", usage := "List connected devices and exit",
      set := setSwitch fun v o => { o with listDevices := v } },
    { name := "list-events", usage := "List supported gesture events and exit",
      set := setSwitch fun v o => { o with listEvents := v } },
    { name := "monkey-port", takes := "int", usage := "Port of the monkey input server on the wearable",
      shown := shownNumber start.monkeyPort, set := setNumber fun v o => { o with monkeyPort := v } },
    { name := "quiet", letter := some 'q', usage := "Only log warnings and errors",
      set := setSwitch fun v o => { o with quiet := v } },
    { name := "script", takes := "strings",
      usage := "Gesture events played while the watch face is active (comma separated)",
      shown := shownItems start.script, set := setScript },
    { name := "test", letter := some 't', takes := "string", usage := "Test to run: sensor or display",
      shown := shownText start.test, set := setText fun v o => { o with test := v } },
    { name := "wear-serial", letter := some 'w', takes := "string",
      usage := "Wearable device id (adb serial or host:port)",
      shown := shownText start.wearSerial, set := setText fun v o => { o with wearSerial := v } }]

/-- The flags of the main command, in ascending order. -/
def flags : List (Flag Options) := (helpFlag "wearprobe").insert (commonFlags value)

/-- Whether an option was given, or its variable is set. -/
def overrides (given : List String) (flag variableName : String) : Bool :=
  given.contains flag || value variableName != ""

def lay (given : List String) (o : Options) (s : Settings) : Settings :=
  let wins := overrides value given
  { s with
    adbPath := if wins "adb" "WEARPROBE_ADB" then o.adbPath else s.adbPath
    wearSerial := if wins "wear-serial" "WEARPROBE_WEAR_SERIAL" then o.wearSerial else s.wearSerial
    handheldSerial :=
      if wins "handheld-serial" "WEARPROBE_HANDHELD_SERIAL" then o.handheldSerial else s.handheldSerial
    monkeyPort := if wins "monkey-port" "WEARPROBE_MONKEY_PORT" then o.monkeyPort else s.monkeyPort
    appiumUrl := if wins "appium-url" "WEARPROBE_APPIUM_URL" then o.appiumUrl else s.appiumUrl
    script := if wins "script" "WEARPROBE_SCRIPT" then o.script else s.script }

def about : List String :=
  ["Wearprobe installs third-party watch faces on a paired wearable and handheld,",
    "drives the wearable through a gesture script and reports the sensor listeners the",
    "watch face failed to release. The display test captures interactive and ambient",
    "screenshots instead."]

def examples : List String :=
  ["  # Sensor leak test of one package",
    "  go run main.go --handheld-serial 00944424b877b2ce wear.trombettonj.trombt1pearlfree",
    "",
    "  # Play a gesture script while the face is active",
    "  go run main.go -p 00944424b877b2ce --script swipe_left,tap_screen_center,standby wear.face",
    "",
    "  # Display test of every pending package in display.leak.txt",
    "  go run main.go -p 00944424b877b2ce --test display",
    "",
    "  # Use a YAML config file",
    "  go run main.go --config wearprobe.yaml wear.face",
    "",
    "  # List supported gesture events",
    "  go run main.go --list-events",
    "",
    "  # Connect to the wearable over adb",
    "  go run main.go --connect 127.0.0.1:4444",
    "",
    "  # List connected devices",
    "  go run main.go --list-devices"]

def helpText : String :=
  "\n".intercalate (about ++ ["", "Usage:", "  wearprobe [package...] [flags]", "", "Examples:"] ++ examples ++
    ["", "Flags:", Flag.help (flags value), ""])

end Options
end WatchTrial.CommandLine
