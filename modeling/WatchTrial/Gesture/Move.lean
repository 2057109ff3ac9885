import WatchTrial.Fault
/-!
# Moves

What a gesture consists of: inputs to the watch and pauses between them.
-/
namespace WatchTrial

inductive TouchAction where
  | down
  | up
  | move
  | downAndUp
  /-- An action that no watch knows. -/
  | other (name : String)
deriving Repr, DecidableEq, Inhabited

def TouchAction.name : TouchAction → String
  | down => "down"
  | up => "up"
  | move => "move"
  | downAndUp => "downAndUp"
  | other name => name

def TouchAction.ofName (name : String) : TouchAction :=
  ([down, up, move, downAndUp].find? (·.name = name)).getD (other name)

inductive KeyAction where
  | down
  | up
  | downAndUp
  /-- An action that no watch knows. -/
  | other (name : String)
deriving Repr, DecidableEq, Inhabited

def KeyAction.name : KeyAction → String
  | down => "down"
  | up => "up"
  | downAndUp => "downAndUp"
  | other name => name

def KeyAction.ofName (name : String) : KeyAction :=
  ([down, up, downAndUp].find? (·.name = name)).getD (other name)

inductive Input where
  | touch (action : TouchAction) (x y : Int64)
  | press (action : KeyAction) (key : String)
  | wake
deriving Repr, DecidableEq, Inhabited

inductive Move where
  | input (input : Input)
  /-- A pause in nanoseconds. -/
  | pause (duration : Int64)
  /-- A gesture that cannot be played ends here. -/
  | refuse (why : Fault)
deriving Inhabited

end WatchTrial
