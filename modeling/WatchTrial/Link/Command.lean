import WatchTrial.Bench.Basic
import WatchTrial.Gesture.Move
import WatchTrial.Text.Blank
/-!
# Commands on a link

A command is one line; the answer is `OK`, perhaps with a value, or an error. A link that cannot send the
line or gives no complete line back is lost; any other answer is a failed command.

What arrives on a link is a stream. The answer is what stands in it up to the next line feed; what is left
waits to be read by the next command.
-/
namespace WatchTrial

/-- How a link answers a line. -/
inductive Exchange where
  | unsent (why : String)
  /-- No complete line came back. -/
  | unanswered (why : String)
  /-- The line that came back, without its line feed. -/
  | line (text : String)
deriving Repr, DecidableEq, Inhabited

namespace Link

/-- What is waiting to be read on a link. -/
def waiting (b : Bench) (link : Nat) : List Char := (b.unread.lookup link).getD []

def leave (link : Nat) (rest : List Char) (b : Bench) : Bench :=
  { b with unread := (link, rest) :: b.unread.filter (·.1 != link) }

@[simp] theorem waiting_leave (link : Nat) (rest : List Char) (b : Bench) :
    waiting (leave link rest b) link = rest := by
  simp [waiting, leave]

/-- A new client on a link, to which nothing has come yet. -/
def attach (link : Nat) : Act Bench Unit := Act.of fun b => ((), leave link [] b)

/-- Reads up to the next line feed: the answer, and what is left. What comes without a line feed is lost. -/
def receive (waiting : List Char) : Arrival → Exchange × List Char
  | .unsent why => (.unsent why, waiting)
  | .arrived text stop =>
    let stream := waiting ++ text.toList
    match stream.dropWhile (· != '\n') with
    | _ :: rest => (.line (String.ofList (stream.takeWhile (· != '\n'))), rest)
    | [] => (.unanswered stop, [])

/-- Sends a line on a link and reads one back. -/
def exchange (w : World) (link : Nat) (text : String) (b : Bench) : Exchange × Bench :=
  let written := b.write w link text
  let received := receive (waiting b link) written.1
  (received.1, leave link received.2 written.2)

/-- The line of an input, or why there is none. -/
def lineOf : Input → Except Fault String
  | .touch (.other name) _ _ => .error (.plain ("unknown touch action " ++ Text.quote name))
  | .touch .downAndUp x y => .ok ("tap " ++ Text.showInt64 x ++ " " ++ Text.showInt64 y)
  | .touch action x y =>
    .ok ("touch " ++ action.name ++ " " ++ Text.showInt64 x ++ " " ++ Text.showInt64 y)
  | .press (.other name) _ => .error (.plain ("unknown key action " ++ Text.quote name))
  | .press .downAndUp key => .ok ("press " ++ key)
  | .press action key => .ok ("key " ++ action.name ++ " " ++ key)
  | .wake => .ok "wake"

def variableLine (name : String) : String := "getvar " ++ name

/-- The value of an answer to a command. -/
def valueOf (command answer : String) : Except Fault String :=
  let line := Text.dropEndWhile (fun c => c = '\r' || c = '\n') answer.toList
  if line = "OK".toList then .ok ""
  else
    match Text.afterStart "OK:".toList line with
    | some value => .ok (String.ofList value)
    | none =>
      match Text.afterStart "ERROR".toList line with
      | some rest =>
        let why := (Text.afterStart [':'] rest).getD rest
        .error (.commandFailed command
          (.plain (if why.isEmpty then "monkey replied ERROR" else String.ofList why)))
      | none =>
        .error (.commandFailed command (.plain ("unexpected reply " ++ Text.quote (String.ofList line))))

/-- The outcome of a command, given how the link answered. -/
def outcomeOf (command : String) : Exchange → Except Fault String
  | .unsent why | .unanswered why => .error (.connectionLost command (.plain why))
  | .line answer => valueOf command answer

def send (w : World) (link : Nat) (command : String) : Act Bench String := fun b =>
  let (answer, b) := exchange w link command b
  (outcomeOf command answer, b)

def sendInput (w : World) (link : Nat) (i : Input) : Act Bench Unit :=
  match lineOf i with
  | .error fault => throw fault
  | .ok line => do
    let _ ← send w link line

def close (link : Nat) : Act Bench Unit := Act.of fun b => ((), b.close link)

end Link

end WatchTrial
