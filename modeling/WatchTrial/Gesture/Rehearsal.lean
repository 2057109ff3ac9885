import WatchTrial.Gesture.Player
/-!
# A practice watch

A watch that notes its inputs and fails at a call that was chosen before.
-/
namespace WatchTrial

inductive Note where
  | input (input : Input)
  | slept (duration : Int64)
  /-- A gesture that only leaves its name. -/
  | played (name : String)
deriving Repr, DecidableEq, Inhabited

structure Practice where
  notes : List Note := []
  /-- How many inputs were sent. -/
  calls : Nat := 0
  /-- The number of the input that fails. -/
  failAt : Option Nat := none
deriving Repr, DecidableEq, Inhabited

namespace Practice

def note (p : Practice) (n : Note) : Practice := { p with notes := p.notes ++ [n] }

instance : Sleeper Practice where
  slept d p := p.note (.slept d)

/-- Takes an input, and fails if it is the chosen one. -/
def take (i : Input) : Act Practice Unit := fun p =>
  let calls := p.calls + 1
  let after := { p.note (.input i) with calls }
  if p.failAt = some calls then
    (.error (.commandFailed ("call " ++ toString calls) (.plain "link closed")), after)
  else (.ok (), after)

def watch (size : DisplaySize) : Watch Practice where
  size := size
  send i := (take i).task

/-- A gesture that leaves its name. -/
def leaveName (name : String) : Player Practice → Task Practice Unit :=
  fun _ => Act.task (Act.of fun p => ((), p.note (.played name)))

end Practice

end WatchTrial
