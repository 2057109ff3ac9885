import WatchTrial.Companion.Picker
/-!
# A scripted handheld

A handset answers the steps of picking a watch face from a script and notes them. The outcomes of a step
are used in order, and afterwards it ends well. Which outcome is next follows from the notes.
-/
namespace WatchTrial.Rehearsal

/-- How a step ends. -/
inductive Outcome where
  /-- The step ends well; a question is answered with yes or no. -/
  | fine (yes : Bool)
  | fails (fault : Fault)
deriving Inhabited

abbrev Outcomes := List (String × List Outcome)

structure AutomatorScript where
  opening : Option Outcome := none
  outcomes : Outcomes := []
deriving Inhabited

inductive HandsetNote where
  | step (name : String) (automator : Option Nat) (about : List String)
  | slept (duration : Int64)
deriving Repr, DecidableEq, Inhabited

structure Handset where
  automators : List AutomatorScript := []
  outcomes : Outcomes := []
  notes : List HandsetNote := []
  held : List (String × Nat) := []
deriving Inhabited

namespace Handset

instance : Sleeper Handset where
  slept d h := { h with notes := h.notes ++ [.slept d] }

/-- How often a step was taken. -/
def timesTaken (notes : List HandsetNote) (name : String) (automator : Option Nat) : Nat :=
  notes.countP fun
    | .step n a _ => n == name && a == automator
    | .slept _ => false

/-- The outcomes of steps with an automator, or of the handset itself. -/
def outcomesOf (h : Handset) : Option Nat → Outcomes
  | some n => ((h.automators[n]?).map AutomatorScript.outcomes).getD []
  | none => h.outcomes

/-- The next outcome of a step. -/
def next (h : Handset) (name : String) (automator : Option Nat) : Outcome :=
  let queue := ((h.outcomesOf automator).lookup name).getD []
  (queue[timesTaken h.notes name automator]?).getD (.fine true)

/-- Takes a step that can be answered with yes or no. -/
def ask (name : String) (automator : Option Nat) (about : List String) : Act Handset Bool := fun h =>
  let after := { h with notes := h.notes ++ [.step name automator about] }
  match h.next name automator with
  | .fine yes => (.ok yes, after)
  | .fails fault => (.error fault, after)

def take (name : String) (automator : Option Nat) (about : List String) : Act Handset Unit := do
  let _ ← ask name automator about

/-- Opens the next automator. -/
def openNext (device : String) : Act Handset Nat := fun h =>
  let n := timesTaken h.notes "open" none
  let after := { h with notes := h.notes ++ [.step "open" none [device]] }
  match (h.automators[n]?).bind AutomatorScript.opening with
  | some (.fails fault) => (.error fault, after)
  | _ => (.ok n, after)

def handheld : Handheld Handset Nat where
  pressKey device key := take "key" none [device, key]
  launch device component := take "start" none [device, component]
  open_ := openNext
  isVisible n s := ask "exists" (some n) [s.expression]
  click n s := take "click" (some n) [s.expression]
  scrollToEnd n s := take "scroll_to_end" (some n) [s.expression]
  scrollTo n container target := take "scroll_to" (some n) [container.expression, target.expression]
  quit n := take "quit" (some n) []
  held h := h.held
  hold held h := { h with held }
  swipeAway := (take "swipe" none []).task

end Handset
end WatchTrial.Rehearsal
