import WatchTrial.Device.Adb
import WatchTrial.Device.Listing
import WatchTrial.Device.Screenshot
import WatchTrial.Image.Png
import WatchTrial.Sensor.Dump
/-!
# Operations on a device

What is asked of a device through its commands: its display, its packages, its sensors, its screen, and
how it is connected.
-/
namespace WatchTrial.Adb

variable (w : World) (adb : Adb)

def displaySize (device : String) : Act Bench DisplaySize := do
  let output ← (adb.runChecked w device ["shell", "wm", "size"]).output
  match DisplaySize.read output.stdout with
  | .ok size => return size
  | .error fault => throw (.commandFailed "wm size" (.plain fault.message))

def isInstalled (device pkg : String) : Act Bench Bool := do
  let output ← (adb.runChecked w device ["shell", "pm", "list", "packages"]).output
  return packageListed output.stdout pkg

/-- Installs a package unless it is there already. A failure that is only printed counts, and is not
tried again. -/
def install (device pkg path : String) : Act Bench Unit := do
  if ← adb.isInstalled w device pkg then return ()
  let output ← (Adb.retry w (adb.command device ["install", path])).output
  match installFailure? (output.stdout ++ "\n" ++ output.stderr) with
  | some line => throw (.commandFailed output.commandLine (.plain line))
  | none => return ()

def uninstall (device pkg : String) : Act Bench Unit := do
  let output ← (adb.run w device ["uninstall", pkg]).output
  if output.succeeded then return ()
  throw (badStatus output (output.stdout ++ output.stderr))

def sensorDump : List String := ["shell", "dumpsys", "sensorservice"]

/-- Reads the sensor registrations of third parties. -/
def readSensors (device : String) : Act Bench Snapshot := do
  let output ← (adb.runChecked w device sensorDump).output
  return (Dump.read adb.filter output.stdout).1

def startActivity (device component : String) : Act Bench Unit := do
  let _ ← (adb.runChecked w device ["shell", "am", "start", "-n", component]).output

def keyEvent (device key : String) : Act Bench Unit := do
  let _ ← (adb.runChecked w device ["shell", "input", "keyevent", key]).output

def clearLog (device : String) : Act Bench Unit := do
  let _ ← (adb.runChecked w device ["logcat", "-c"]).output

def forward (device : String) (localPort remotePort : Int64) : Act Bench Unit := do
  let _ ← (adb.runChecked w device
    ["forward", "tcp:" ++ Text.showInt64 localPort, "tcp:" ++ Text.showInt64 remotePort]).output

/-- Where a device keeps a screenshot until it is pulled. -/
def remoteScreenshot : String := "/sdcard/tmp.png"

def captureFailed (printed : String) : Bool :=
  Text.occursIn "Status: -1".toList printed.toList || Text.occursIn "Failed".toList printed.toList

/-- Takes a screenshot and leaves it in the scratch file. -/
def pullScreenshot (device : String) : Act Bench Screenshot := do
  let output ← (adb.runChecked w device ["shell", "screencap", "-p", remoteScreenshot]).output
  if captureFailed output.stdout then
    throw (.commandFailed output.commandLine (.plain (Text.trim output.stdout)))
  let _ ← (adb.runChecked w device ["pull", remoteScreenshot, w.scratch]).output
  match (← get).files.read w.scratch with
  | .error why => throw (.context "read screenshot" (.plain why))
  | .ok data =>
    match Png.size data with
    | .error why => throw (.context "decode screenshot" (.plain why.message))
    | .ok size => return ⟨data, size⟩

/-- Takes a screenshot; the scratch file is removed again. -/
def screenshot (device : String) : Act Bench Screenshot := fun b =>
  let (outcome, b) := adb.pullScreenshot w device b
  (outcome, { b with files := b.files.remove w.scratch })

/-- Connects a device over the network; the text says how it went. -/
def connect (address : String) : StateM Bench (String × Except Fault Unit) := fun b =>
  match adb.runChecked w "" ["connect", address] b with
  | ((_, .error fault), b) => (("Connect error: " ++ fault.message, .error fault), b)
  | ((output, .ok _), b) =>
    let printed := output.stdout.toLower.toList
    if Text.occursIn "already connected".toList printed then (("Already connected to " ++ address, .ok ()), b)
    else if (Text.afterStart "connected".toList printed).isSome || Text.occursIn " connected".toList printed then
      (("Connected to " ++ address, .ok ()), b)
    else
      let why := Text.trim (output.stdout ++ output.stderr)
      (("Connection error: " ++ why, .error (.connectionLost ("adb connect " ++ address) (.plain why))), b)

/-- Disconnects a device, or all of them for an empty address; the text says how it went. -/
def disconnect (address : String) : StateM Bench (String × Except Fault Unit) := fun b =>
  match adb.runChecked w "" ("disconnect" :: (if address = "" then [] else [address])) b with
  | ((_, .error fault), b) => (("Disconnect error: " ++ fault.message, .error fault), b)
  | ((output, .ok _), b) => ((Text.trim output.stdout, .ok ()), b)

def listDevices : Act Bench (List ListedDevice) := do
  let output ← (adb.runChecked w "" ["devices", "-l"]).output
  return ListedDevice.readAll output.stdout

/-- Asks whether a device is listed as ready. -/
def isConnected (device : String) : StateM Bench Bool := fun b =>
  match adb.listDevices w b with
  | (.error _, b) => (false, b)
  | (.ok devices, b) => (ListedDevice.ready devices device, b)

def startServer (port : Int64) (device : String) : Act Bench Unit := do
  match ← Act.of (Bench.start w (adb.command device ["shell", "monkey", "--port", Text.showInt64 port])) with
  | some why => throw (.connectionLost "start monkey" (.plain why))
  | none => return ()

/-- Starts the input server of a device, makes its port reachable, and dials it. -/
def dialServer (port : Int64) (device : String) : Act Bench Nat := do
  adb.startServer w port device
  adb.forward w device port port
  Bench.dial w ("dial monkey 127.0.0.1:" ++ Text.showInt64 port) device

end WatchTrial.Adb
