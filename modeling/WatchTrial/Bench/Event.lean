import WatchTrial.Fault
import WatchTrial.Json.Basic
/-!
# What happens between a trial and its outside

Every exchange with the outside is an event: a command that ran with its answer, a link that was
dialled, a line that was sent, a request to the automation server, a pause.
-/
namespace WatchTrial

/-- Why the outside did not do what it was asked to. -/
inductive Reason where
  | cancelled
  /-- A reason that is only text. -/
  | because (text : String)
deriving Repr, DecidableEq, Inhabited

def Reason.fault : Reason → Fault
  | cancelled => .canceled
  | because text => .plain text

/-- How the outside answers a command. -/
structure Answer where
  stdout : String := ""
  stderr : String := ""
  exit : Int64 := 0
  /-- Why the command could not run at all. -/
  failure : Option Reason := none
  /-- Bytes that the command wrote to the file named by its last argument. -/
  file : Option ByteArray := none
deriving Inhabited

/-- What comes of a line that is written on a link. -/
inductive Arrival where
  | unsent (why : String)
  /-- What arrives, and why nothing comes after it. -/
  | arrived (text : String) (stop : String)
deriving Repr, DecidableEq, Inhabited

structure Request where
  method : String
  /-- The address as it is shown: a password in it is masked. -/
  url : String
  /-- The path of the address with its escapes resolved. -/
  path : String
  body : Option Json
deriving Inhabited

/-- How the automation server answers a request. -/
inductive Response where
  | failed (why : String)
  /-- The body could not be read to its end. -/
  | broken (status : Int64) (why : String)
  | complete (status : Int64) (body : String)
deriving Repr, DecidableEq, Inhabited

inductive Event where
  | ran (argv : List String) (answer : Answer)
  /-- A command was started and left running, or could not be started. -/
  | started (argv : List String) (failure : Option String)
  | dialled (device : String) (refusal : Option String)
  | sent (link : Nat) (text : String)
  | closed (link : Nat)
  | requested (request : Request) (response : Response)
  | slept (duration : Int64)
deriving Inhabited

end WatchTrial
