import WatchTrial.Sensor.Snapshot
import WatchTrial.Text.Patch
/-!
# Changes between snapshots

Two snapshots are compared line by line, one line per registration in ascending order.
-/
namespace WatchTrial.Snapshot

def showLines (s : Snapshot) : List String :=
  s.elements.map fun r => r.describe ++ "\n"

/-- The patch from one snapshot to another, with one unchanged line around each change. -/
def changes (before after : Snapshot) : String :=
  Text.Patch.render 1 "before" "after" before.showLines after.showLines

end WatchTrial.Snapshot
