/-!
# Faults

What can go wrong in a trial is a tree. A `failure` says which kind of step failed, what was being
done and, if known, why. Callers do not take the tree apart: they ask for its text, for the kind of
the outermost failure, and whether a mark occurs anywhere in it.
-/
namespace WatchTrial

/-- The kinds of failure a caller can tell apart. -/
inductive Kind where
  | connectionLost
  /-- A command was refused or ended with an error. -/
  | commandFailed
  | unsupportedEvent
  /-- A trial ended before its verdict. -/
  | setupFailed
  /-- Diagnostic text was skipped. -/
  | parseDegraded
  /-- A failure outside the five kinds. -/
  | other (code : Int64)
deriving Repr, DecidableEq

/-- A fact that can be found anywhere in a fault. -/
inductive Mark where
  | connectionLost
  | commandFailed
  | unsupportedEvent
  | setupFailed
  | parseDegraded
  | canceled
  | invalidSession
deriving Repr, DecidableEq

namespace Mark

/-- All marks, in the order in which they are listed to the user. -/
def all : List Mark :=
  [connectionLost, commandFailed, unsupportedEvent, setupFailed, parseDegraded, canceled, invalidSession]

def message : Mark → String
  | connectionLost => "connection lost"
  | commandFailed => "command failed"
  | unsupportedEvent => "unsupported event"
  | setupFailed => "setup failed"
  | parseDegraded => "parse degraded"
  | canceled => "context canceled"
  | invalidSession => "appium: invalid session"

end Mark

namespace Kind

def mark? : Kind → Option Mark
  | connectionLost => some .connectionLost
  | commandFailed => some .commandFailed
  | unsupportedEvent => some .unsupportedEvent
  | setupFailed => some .setupFailed
  | parseDegraded => some .parseDegraded
  | other _ => none

/-- The name of the kind; the kinds outside the five have no name of their own. -/
def name (kind : Kind) : String :=
  match kind.mark? with
  | some mark => mark.message
  | none => "unknown"

def heading (kind : Kind) (doing : String) : String :=
  if doing = "" then kind.name else kind.name ++ ": " ++ doing

def code : Kind → Int64
  | connectionLost => 1
  | commandFailed => 2
  | unsupportedEvent => 3
  | setupFailed => 4
  | parseDegraded => 5
  | other code => code

def ofCode (code : Int64) : Kind :=
  if code = 1 then connectionLost
  else if code = 2 then commandFailed
  else if code = 3 then unsupportedEvent
  else if code = 4 then setupFailed
  else if code = 5 then parseDegraded
  else other code

/-- The kind of a fault without any failure in it. -/
def unknown : Kind := other 0

end Kind

inductive Fault where
  /-- A fault that is only text. -/
  | plain (text : String)
  /-- A fault that is only a mark. -/
  | mark (mark : Mark)
  /-- A failed step: its kind, what was being done, and the cause. -/
  | failure (kind : Kind) (doing : String) (cause : Option Fault)
  /-- A fault with words put in front of it. -/
  | context (about : String) (cause : Fault)
  | joined (causes : List Fault)
deriving Inhabited

namespace Fault

mutual

def message : Fault → String
  | plain text => text
  | mark m => m.message
  | failure kind doing none => kind.heading doing
  | failure kind doing (some cause) => kind.heading doing ++ ": " ++ cause.message
  | context about cause => about ++ ": " ++ cause.message
  | joined causes => "\n".intercalate (messages causes)

def messages : List Fault → List String
  | [] => []
  | cause :: rest => cause.message :: messages rest

end

mutual

def carries (sought : Mark) : Fault → Bool
  | plain _ => false
  | mark m => m == sought
  | failure kind _ none => kind.mark? == some sought
  | failure kind _ (some cause) => kind.mark? == some sought || cause.carries sought
  | context _ cause => cause.carries sought
  | joined causes => anyCarries sought causes

def anyCarries (sought : Mark) : List Fault → Bool
  | [] => false
  | cause :: rest => cause.carries sought || anyCarries sought rest

end

mutual

/-- The kind of the first failure on the way from the outside in, causes from left to right. -/
def kind? : Fault → Option Kind
  | plain _ => none
  | mark _ => none
  | failure kind _ _ => some kind
  | context _ cause => cause.kind?
  | joined causes => firstKind? causes

/-- The kind of the first failure among several faults. -/
def firstKind? : List Fault → Option Kind
  | [] => none
  | cause :: rest => cause.kind? <|> firstKind? rest

end

/-- The kind of the outermost failure. -/
def kindOf (fault : Fault) : Kind :=
  fault.kind?.getD .unknown

/-- Whether the outermost failure is one that may pass: a lost link or a failed command. -/
def retryable (fault : Fault) : Bool :=
  match fault.kindOf with
  | .connectionLost | .commandFailed => true
  | _ => false

/-- The fault directly below this one; faults reported together have none. -/
def cause? : Fault → Option Fault
  | plain _ | mark _ | joined _ => none
  | failure _ _ cause => cause
  | context _ cause => some cause

/-- Several faults reported as one, or nothing when there are none. -/
def join? : List Fault → Option Fault
  | [] => none
  | causes => some (joined causes)

def connectionLost (doing : String) (cause : Fault) : Fault :=
  failure .connectionLost doing (some cause)

def commandFailed (doing : String) (cause : Fault) : Fault :=
  failure .commandFailed doing (some cause)

def unsupportedEvent (name : String) : Fault :=
  failure .unsupportedEvent name none

/-- A trial that ended before its verdict. -/
def setupFailed (doing : String) (cause : Fault) : Fault :=
  failure .setupFailed doing (some cause)

def canceled : Fault := mark .canceled

end Fault
end WatchTrial
