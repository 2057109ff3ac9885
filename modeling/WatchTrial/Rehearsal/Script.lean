import WatchTrial.Bench.Basic
/-!
# Scripted worlds

A script fixes beforehand how the outside answers. Answers to commands and to requests are looked up by
what was asked and are used in order, the last one again and again; to the lines on a link the entries of
its script come back in order, and after these `OK`. Which is next follows from the past alone.
-/
namespace WatchTrial.Rehearsal

structure Rule (α : Type) where
  question : String
  answers : List α
deriving Inhabited

/-- The element with a number, or the last one. -/
def nthOrLast? {α : Type} (xs : List α) (n : Nat) : Option α :=
  xs[n]?.or xs.getLast?

/-- The answer to a question that was asked `n` times before. -/
def answer? {α : Type} (rules : List (Rule α)) (question : String) (n : Nat) : Option α :=
  match rules.find? fun rule => rule.question == question && ! rule.answers.isEmpty with
  | some rule => nthOrLast? rule.answers n
  | none => none

inductive LinkReply where
  | line (text : String)
  /-- Exactly this comes back. -/
  | raw (text : String)
  | unsent (why : String)
deriving Repr, DecidableEq, Inhabited

def LinkReply.arrival : LinkReply → Arrival
  | line text => .arrived (text ++ "\n") "EOF"
  | raw text => .arrived text "EOF"
  | unsent why => .unsent why

inductive LinkScript where
  | refused (why : String)
  | open_ (replies : List LinkReply)
deriving Repr, DecidableEq, Inhabited

/-- How the outside answers. -/
structure Script where
  commands : List (Rule Answer) := []
  /-- The answer to commands without a rule. -/
  otherCommands : Option Answer := none
  links : List LinkScript := []
  /-- The line that takes leave of a link, if there is one. -/
  farewell : Option String := some "done"
  requests : List (Rule Response) := []
deriving Inhabited

def commandKey (argv : List String) : String := " ".intercalate (argv.drop 1)

def requestKey (r : Request) : String := r.method ++ " " ++ r.path

/-- How often a command was run. -/
def timesRun (past : List Event) (key : String) : Nat :=
  past.countP fun
    | .ran argv _ => commandKey argv == key
    | _ => false

/-- How often a request was sent. -/
def timesRequested (past : List Event) (key : String) : Nat :=
  past.countP fun
    | .requested r _ => requestKey r == key
    | _ => false

def isClosed (past : List Event) (link : Nat) : Bool :=
  past.any fun
    | .closed n => n == link
    | _ => false

namespace Script

def link (s : Script) (n : Nat) : LinkScript :=
  (nthOrLast? s.links n).getD (.open_ [])

def runAnswer (s : Script) (past : List Event) (argv : List String) : Answer :=
  let key := commandKey argv
  match answer? s.commands key (timesRun past key) with
  | some answer => answer
  | none => s.otherCommands.getD { exit := 1, stderr := "unexpected " ++ key }

/-- Why a link is refused, if it is. -/
def refusal? (s : Script) (past : List Event) : Option String :=
  match s.link (Bench.dialCount past) with
  | .refused why => some why
  | .open_ _ => none

/-- How many lines were written on a link, its farewell not counted. -/
def timesWritten (s : Script) (past : List Event) (n : Nat) : Nat :=
  past.countP fun
    | .sent link text => link == n && s.farewell != some text
    | _ => false

def arrival (s : Script) (past : List Event) (n : Nat) (text : String) : Arrival :=
  if isClosed past n then .unsent "use of closed connection"
  else
    match s.link n with
    | .refused why => .unsent why
    | .open_ replies =>
      if s.farewell = some text then .arrived "OK\n" "EOF"
      else (replies[s.timesWritten past n]?.getD (.line "OK")).arrival

/-- The answer to a request that no rule is for. -/
def unknownRequest : Response := .complete 404 "\x7b\"value\":\x7b\"error\":\"unknown command\"\x7d\x7d"

def response (s : Script) (past : List Event) (r : Request) : Response :=
  let key := requestKey r
  (answer? s.requests key (timesRequested past key)).getD unknownRequest

def world (s : Script) (scratch : String) : World where
  finds _ := true
  run := s.runAnswer
  start _ _ := none
  dial past _ := s.refusal? past
  write := s.arrival
  request := s.response
  scratch := scratch

end Script

/-- A world that answers commands from a queue, and then with success. -/
def queueWorld (queue : List Answer) : World :=
  { ({} : Script).world "" with
    run := fun past _ => (queue[past.countP fun
      | .ran .. => true
      | _ => false]?).getD {} }

end WatchTrial.Rehearsal
