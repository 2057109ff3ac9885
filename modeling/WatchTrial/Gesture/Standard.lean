import WatchTrial.Device.DisplaySize
import WatchTrial.Gesture.Swipe
import WatchTrial.Settings.Basic
/-!
# The standard gestures

Ten gestures are played by touching the display or pressing the side button; six more exist on a wrist
only and cannot be played.
-/
namespace WatchTrial

inductive Gesture where
  | standby
  | swipeRight
  | swipeLeft
  | swipeUp
  | swipeDown
  | pressSideButton
  | holdSideButton
  | tapCenter
  | holdCenter
  | wake
deriving Repr, DecidableEq, Inhabited

namespace Gesture

def all : List Gesture :=
  [standby, swipeRight, swipeLeft, swipeUp, swipeDown, pressSideButton, holdSideButton, tapCenter, holdCenter, wake]

def name : Gesture → String
  | standby => "standby"
  | swipeRight => "swipe_right"
  | swipeLeft => "swipe_left"
  | swipeUp => "swipe_up"
  | swipeDown => "swipe_down"
  | pressSideButton => "press_side_button"
  | holdSideButton => "press_and_hold_side_button"
  | tapCenter => "tap_screen_center"
  | holdCenter => "tap_and_hold_screen_center"
  | wake => "wake"

/-- Names of gestures that are known and cannot be played. -/
def unplayable : List String :=
  ["palm", "palm_over_screen", "flick_wrist_in", "flick_wrist_out", "shake", "tilt"]

def sideButton : String := "KEYCODE_HOME"

/-- A swipe between two places, as long as the timeouts say. -/
def swipe (t : Timeouts) (start stop : Point) : Motion :=
  .swipe ⟨start, stop, t.swipeDuration, t.swipeSteps⟩

def touch (action : TouchAction) (x y : Int64) : Motion := .move (.input (.touch action x y))

def rest (duration : Int64) : Motion := .move (.pause duration)

def side (action : KeyAction) : Motion := .move (.input (.press action sideButton))

def motions (t : Timeouts) (size : DisplaySize) : Gesture → List Motion
  | standby => [rest t.long]
  | swipeRight => [swipe t ⟨50, size.height / 2⟩ ⟨size.width - 25, size.height / 2⟩]
  | swipeLeft => [swipe t ⟨size.width - 50, size.height / 2⟩ ⟨50, size.height / 2⟩]
  | swipeUp =>
    [swipe t ⟨size.width / 2, size.height - 10⟩ ⟨size.width / 2, size.height / 2⟩, rest t.short]
  | swipeDown =>
    [swipe t ⟨size.width / 2, 0⟩ ⟨size.width / 2, size.height / 2 + 50⟩, rest t.short]
  | pressSideButton => [side .downAndUp, rest t.short]
  | holdSideButton => [side .down, rest t.hold, side .up]
  | tapCenter => [touch .downAndUp (size.width / 2) (size.height / 2)]
  | holdCenter =>
    [touch .down (size.width / 2) (size.height / 2), rest t.hold, touch .up (size.width / 2) (size.height / 2)]
  | wake => [.move (.input .wake)]

/-- The moves of a gesture on a display. -/
def moves (t : Timeouts) (size : DisplaySize) (g : Gesture) : List Move :=
  (g.motions t size).flatMap Motion.moves

end Gesture

end WatchTrial
