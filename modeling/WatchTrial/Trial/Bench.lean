import WatchTrial.Companion.Bench
import WatchTrial.Face.Labels
import WatchTrial.Face.Progress
import WatchTrial.Session
import WatchTrial.Trial.Run
/-!
# Trials at the bench

At the bench a trial uses the device program for both devices, the current session for the watch, and the
automation server for picking watch faces.
-/
namespace WatchTrial

/-- Saves a file and creates the directories above it. -/
def Bench.save (path : String) (content : ByteArray) : Act Bench Unit := fun b =>
  match b.files.makeEach (Files.directoriesTo (Path.dir path)) with
  | (files, some why) => (.error (.context "create screenshot dir" (.plain why)), { b with files })
  | (files, none) =>
    match files.write path content with
    | .error why => (.error (.context "write screenshot" (.plain why)), { b with files })
    | .ok files => (.ok (), { b with files })

def Rig.atBench (w : World) (c : Connector) (settings : Settings) (labels : Labels) (session : Session) :
    Rig Bench :=
  let player : Player Bench := ⟨session.watch w c, settings.timeouts⟩
  let registry : Registry Bench := .standard
  let handheld := Handheld.atBench w c.adb settings.appiumUrl (player.perform .swipeLeft)
  { settings
    supports := registry.supports
    clearLog := c.adb.clearLog w settings.wearSerial
    readSensors := c.adb.readSensors w settings.wearSerial
    install := fun target => c.adb.install w (settings.serial target)
    uninstall := fun target => c.adb.uninstall w (settings.serial target)
    screenshot := c.adb.screenshot w settings.wearSerial
    save := Bench.save
    findLabel := fun pkg => liftM (labels.lookup pkg)
    select := handheld.select settings.timeouts settings.handheldSerial
    deselect := handheld.deselect settings.timeouts settings.handheldSerial
    wake := player.watch.send .wake
    play := registry.run player
    sleep := pause }

/-- Ends the automation sessions that are held. -/
def Bench.closeAutomators (w : World) : Act Bench Unit :=
  (Handheld.atBench w (Adb.ofPath "" .platform) "" (pure ())).close

/-- The packages whose display trial is not done yet. -/
def Settings.displayQueue (s : Settings) (files : Files) : Except Fault (List String) := do
  let pkgs ← ApkList.load files s.apkListFile
  let done ← Progress.completed files s.screenshotDir s.completedSuffix
  return Progress.pending pkgs done

end WatchTrial
