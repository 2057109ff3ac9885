import WatchTrial.Companion.Selector
import WatchTrial.Effect
import WatchTrial.Settings.Basic
/-!
# Picking a watch face

A watch face is made current in the list of the companion app on the handheld. One automator is held for
each handheld; it is opened when first needed, and dropped when the server no longer knows its session.
Every step is tried again once when it fails.
-/
namespace WatchTrial

/-- What picking a watch face needs: keys and activities on the handheld, automators of type `α` for it,
and a swipe on the watch. -/
structure Handheld (ω α : Type) where
  pressKey : (device key : String) → Act ω Unit
  launch : (device component : String) → Act ω Unit
  open_ : (device : String) → Act ω α
  isVisible : α → Selector → Act ω Bool
  click : α → Selector → Act ω Unit
  scrollToEnd : α → (container : Selector) → Act ω Unit
  scrollTo : α → (container target : Selector) → Act ω Unit
  quit : α → Act ω Unit
  /-- The automators that are held, by handheld. -/
  held : ω → List (String × α)
  /-- Replaces the automators that are held. -/
  hold : List (String × α) → ω → ω
  /-- Leaves the current watch face on the watch. -/
  swipeAway : Task ω Unit

def companionApp : String := "com.google.android.wearable.app"

def companionLauncher : String :=
  companionApp ++ "/com.google.android.clockwork.companion.launcher.LauncherActivity"

def watchFacesTab : Selector :=
  { text := "Watch faces", className := "android.widget.TextView", packageName := companionApp }

def moreButton : Selector := { text := "More" }

def watchFaceList : Selector := { scrollable := true }

def watchFaceEntry (label : String) : Selector :=
  { textStart := label, resourceId := companionApp ++ ":id/watch_face_title" }

/-- What is clicked to make a watch face current. -/
def watchFaceTarget (label : String) : Selector := { textStart := label }

def fallbackWatchFace : String := "Astral"

/-- A label without its backslashes. -/
def plainLabel (label : String) : String :=
  String.ofList (label.toList.filter (· != '\\'))

namespace Handheld

variable {ω α β : Type} (h : Handheld ω α)

/-- The automator for a handheld, which is opened if none is held. -/
def automator (device : String) : Act ω α := do
  match (h.held (← get)).lookup device with
  | some a => return a
  | none =>
    let a ← h.open_ device
    modify fun o => h.hold ((device, a) :: h.held o) o
    return a

def drop (device : String) (o : ω) : ω :=
  h.hold ((h.held o).filter fun entry => entry.1 != device) o

/-- Uses an automator, and drops it if its session is gone. -/
def orDrop (device : String) (a : Act ω β) : Act ω β := fun o =>
  match a o with
  | (.ok b, o) => (.ok b, o)
  | (.error fault, o) => (.error fault, if fault.carries .invalidSession then h.drop device o else o)

/-- Uses the automator for a handheld, again once if it fails. -/
def automate (device doing : String) (f : α → Act ω β) : Act ω β :=
  retryOnce doing do
    let a ← h.automator device
    h.orDrop device (f a)

/-- Looks for the list of watch faces, and opens the companion app if it is not there. -/
def lookForList (device : String) : Act ω (Option Unit) := do
  let visible ← h.automate device ("find " ++ watchFacesTab.expression) (h.isVisible · watchFacesTab)
  if visible then return some ()
  retryOnce "start companion" (h.launch device companionLauncher)
  h.automate device ("click " ++ moreButton.expression) (h.click · moreButton)
  return none

/-- Finds a watch face in the list and clicks it. -/
def pick (device label : String) : Act ω Unit := do
  h.automate device "scroll to end" (h.scrollToEnd · watchFaceList)
  h.automate device ("scroll to " ++ (watchFaceEntry label).expression)
    (h.scrollTo · watchFaceList (watchFaceEntry label))
  h.automate device ("click " ++ (watchFaceTarget label).expression) (h.click · (watchFaceTarget label))

/-- Makes the watch face current whose name starts with a label. -/
def select [Sleeper ω] (timeouts : Timeouts) (device label : String) : Task ω Unit := do
  (retryOnce "wake handheld" (h.pressKey device "KEYCODE_WAKEUP")).task
  poll timeouts.pollInterval fun _ => h.lookForList device
  (h.pick device (plainLabel label)).task

def deselect [Sleeper ω] (timeouts : Timeouts) (device label : String) : Task ω Unit := do
  pause timeouts.medium
  h.swipeAway
  pause timeouts.medium
  h.select timeouts device (if label = "" then fallbackWatchFace else label)

/-- Ends the sessions of automators, and gives what went wrong. -/
def quitAll : List (String × α) → ω → List Fault × ω
  | [], o => ([], o)
  | (_, a) :: rest, o =>
    match h.quit a o with
    | (.ok _, o) => quitAll rest o
    | (.error fault, o) =>
      let (faults, o) := quitAll rest o
      (fault :: faults, o)

/-- Ends the sessions of all automators that are held, and holds none afterwards. -/
def close : Act ω Unit := fun o =>
  let (faults, o) := h.quitAll (h.held o) o
  ((Fault.join? faults).elim (.ok ()) .error, h.hold [] o)

end Handheld
end WatchTrial
