import WatchTrial.Companion.Automation
import WatchTrial.Companion.Picker
import WatchTrial.Device.Operations
/-!
# The handheld at the bench

Keys and activities go through the device program, automators are sessions of the automation server.
-/
namespace WatchTrial

/-- Picking at the bench; `swipeAway` is how the watch leaves its current face. -/
def Handheld.atBench (w : World) (adb : Adb) (server : String) (swipeAway : Task Bench Unit) :
    Handheld Bench Automator where
  pressKey := adb.keyEvent w
  launch := adb.startActivity w
  open_ device := (Automator.closed server device).start w
  isVisible a := a.isVisible w
  click a := a.click w
  scrollToEnd a := a.scrollToEnd w
  scrollTo a := a.scrollTo w
  quit a := do let _ ← a.quit w
  held b := b.automators
  hold automators b := { b with automators }
  swipeAway

end WatchTrial
