import WatchTrial.Duration
import WatchTrial.Gesture.Move
/-!
# Swipes

A swipe goes down at its start, moves in equal whole steps toward its end with a pause after each, and
goes up exactly at its end.
-/
namespace WatchTrial

structure Point where
  x : Int64
  y : Int64
deriving Repr, DecidableEq, Inhabited

/-- The way of a swipe, how long it takes, and in how many steps. -/
structure Swipe where
  start : Point
  stop : Point
  duration : Int64
  steps : Int64
deriving Repr, DecidableEq, Inhabited

namespace Swipe

/-- Why a swipe cannot be played. -/
inductive Problem where
  | noSteps (steps : Int64)
  | negative (duration : Int64)
deriving Repr, DecidableEq

def Problem.message : Problem → String
  | noSteps steps => "swipe: steps must be >= 1, got " ++ Text.showInt64 steps
  | negative duration => "swipe: negative duration " ++ Duration.describe duration

def problem? (s : Swipe) : Option Problem :=
  if s.steps < 1 then some (.noSteps s.steps)
  else if s.duration < 0 then some (.negative s.duration)
  else none

/-- The touch moves after a place, each followed by a pause. -/
def glide (gap : Point) (duration : Int64) : (steps : Nat) → Point → List Move
  | 0, _ => []
  | steps + 1, p =>
    let p : Point := ⟨p.x + gap.x, p.y + gap.y⟩
    .input (.touch .move p.x p.y) :: .pause duration :: glide gap duration steps p

/-- How far each step of a swipe goes. -/
def gap (s : Swipe) : Point :=
  ⟨(s.stop.x - s.start.x) / s.steps, (s.stop.y - s.start.y) / s.steps⟩

def moves (s : Swipe) : List Move :=
  match s.problem? with
  | some problem => [.refuse (.plain problem.message)]
  | none =>
    .input (.touch .down s.start.x s.start.y) ::
      (glide s.gap (s.duration / s.steps) s.steps.toInt.toNat s.start ++
        [.input (.touch .up s.stop.x s.stop.y)])

end Swipe

/-- A piece of a gesture: a single move, or a swipe, whose many moves come one at a time. -/
inductive Motion where
  | move (m : Move)
  | swipe (s : Swipe)
deriving Inhabited

def Motion.moves : Motion → List Move
  | move m => [m]
  | swipe s => s.moves

end WatchTrial
