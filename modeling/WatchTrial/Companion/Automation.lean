import WatchTrial.Bench.Basic
import WatchTrial.Companion.Selector
import WatchTrial.Json.Record
import WatchTrial.Text.Blank
import WatchTrial.Text.Decimal
import WatchTrial.Web.Address
/-!
# Automation of the handheld

An automation server takes requests under a session and answers in JSON. Members of its answers are found
by name without regard to case, and a missing or null member counts as empty; a value of another type
makes the whole answer unreadable. Other members are not looked into.
-/
namespace WatchTrial

namespace Reply

def session? : (body : String) → Option String :=
  (Json.Shape.group [("value", .group [("sessionId", .text fun s _ => s)])]).read? ""

def value? : (body : String) → Option Json :=
  (Json.Shape.group [("value", .value fun v _ => v)]).read? .null

def elementMember : String := "element-6066-11e4-a52e-4f735466cecf"

/-- The member that names an element in answers of older servers. -/
def olderElementMember : String := "ELEMENT"

/-- The text of a member, empty if there is none. -/
def memberText (name : String) (members : Json.Row) : String :=
  ((Json.member? name members).map Json.stringOrEmpty).getD ""

/-- The name of an element, empty if it has none. -/
def elementOf (members : Json.Row) : String :=
  if memberText elementMember members = "" then memberText olderElementMember members
  else memberText elementMember members

def elements? (body : String) : Option (List String) := do
  let found ← (Json.Shape.group [("value", .rows id fun rows _ => rows)]).read? {} body
  return (found.rows.map elementOf).filter (· != "")

structure Complaint where
  error : String := ""
  message : String := ""

/-- Whether an answer says that the server no longer knows the session. -/
def deniesSession (body : String) : Bool :=
  let shape : Json.Shape Complaint := .group [("value", .group
    [("error", .text fun s c => { c with error := s }), ("message", .text fun s c => { c with message := s })])]
  match shape.read? {} body with
  | none => false
  | some c => c.error == "invalid session id" || c.message.contains "session is either terminated or not started"

end Reply

namespace Automator

variable (w : World)

def asking (method path : String) : String := "appium: " ++ method ++ " " ++ path

/-- A method with its first letter in upper and the others in lower case. -/
def titled (method : String) : String := method.toLower.capitalize

/-- What an answer with an error status means. -/
def refusal (method path : String) (status : Int64) (body : String) : Fault :=
  let about := asking method path ++ ": status " ++ Text.showInt64 status
  if Reply.deniesSession body then .context about (.mark .invalidSession)
  else .plain (about ++ ": " ++ Text.trim body)

/-- What comes back for a request: the body of the answer. -/
def bodyOf (method path shown : String) : Response → Except Fault String
  | .failed why =>
    .error (.context (asking method path) (.context (titled method ++ " " ++ Text.quote shown) (.plain why)))
  | .broken _ why => .error (.context "appium: read response" (.plain why))
  | .complete status body =>
    if 400 ≤ status then .error (refusal method path status body) else .ok body

def ask (server method path : String) (body : Option Json) : Act Bench String := do
  match Web.Address.read (server ++ path) with
  | .error (shown, flaw) => throw (.plain ("appium: create request: parse " ++ shown ++ ": " ++ flaw.message))
  | .ok address =>
    let response ← Act.of (Bench.request w ⟨method, address.text, address.pathText, body⟩)
    bodyOf method path address.text response

def query {α : Type} (server path : String) (body : Json) (read : String → Option α) : Act Bench α := do
  let text ← ask w server "POST" path (some body)
  match read text with
  | some a => return a
  | none => throw (.plain "appium: unmarshal response")

def path (a : Automator) (suffix : String) : String := "/session/" ++ a.session ++ suffix

/-- The seconds of inactivity after which the server ends a session. -/
def idleSeconds : Int := 300

def capabilities (handheld : String) : Json :=
  .object [("capabilities", .object [("alwaysMatch", .object [
    ("platformName", .string "Android"), ("appium:automationName", .string "UiAutomator2"),
    ("appium:udid", .string handheld), ("appium:noReset", .bool true),
    ("appium:newCommandTimeout", .int idleSeconds)])])]

/-- An automator without a session. -/
def closed (server handheld : String) : Automator :=
  ⟨String.ofList (Text.dropEndWhile (· == '/') server.toList), handheld, ""⟩

def start (a : Automator) : Act Bench Automator := do
  let session ← query w a.server "/session" (capabilities a.handheld) Reply.session?
  if session = "" then throw (.plain "appium: empty session id")
  return { a with session }

def find (a : Automator) (expression : String) : Act Bench (List String) :=
  query w a.server (a.path "/elements")
    (.object [("using", .string "-android uiautomator"), ("value", .string expression)]) Reply.elements?

/-- The first element that an expression finds. -/
def first (a : Automator) (expression : String) : Act Bench String := do
  match ← a.find w expression with
  | element :: _ => return element
  | [] => throw (.plain ("appium: no element matches " ++ expression))

def clickElement (a : Automator) (element : String) : Act Bench Unit := do
  let _ ← ask w a.server "POST" (a.path ("/element/" ++ element ++ "/click")) (some (.object []))

/-- Has the server run a script, and gives its value. -/
def execute (a : Automator) (script : String) (parameters : Json) : Act Bench Json :=
  query w a.server (a.path "/execute/sync")
    (.object [("script", .string script), ("args", .array [parameters])]) Reply.value?

def isVisible (a : Automator) (s : Selector) : Act Bench Bool := do
  return ! (← a.find w s.expression).isEmpty

/-- Clicks the first element that is meant. -/
def click (a : Automator) (s : Selector) : Act Bench Unit := do
  a.clickElement w (← a.first w s.expression)

/-- Scrolls a list down as long as there is more of it, at most `left` times. -/
def scrollDown (a : Automator) (element : String) : (left : Nat) → Act Bench Unit
  | 0 => return ()
  | left + 1 => do
    let more ← a.execute w "mobile: scrollGesture"
      (.object [("elementId", .string element), ("direction", .string "down"), ("percent", .int 1)])
    if more.isTrue then scrollDown a element left

/-- How often a list is scrolled down at most. -/
def scrollLimit : Nat := 30

/-- Scrolls a list to its end. -/
def scrollToEnd (a : Automator) (container : Selector) : Act Bench Unit := do
  a.scrollDown w (← a.first w container.expression) scrollLimit

/-- Scrolls a list until an element is in view. -/
def scrollTo (a : Automator) (container target : Selector) : Act Bench Unit := do
  let _ ← a.first w (container.scrolling target)

/-- Ends the session, if there is one. -/
def quit (a : Automator) : Act Bench Automator := do
  if a.session = "" then return a
  let _ ← ask w a.server "DELETE" (a.path "") none
  return { a with session := "" }

end Automator
end WatchTrial
