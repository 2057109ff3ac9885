import WatchTrial.Text.Quoted
/-!
# Selectors

A selector says which elements of the handheld's screen are meant, and is sent as an expression.
-/
namespace WatchTrial

/-- Which elements are meant. An empty text constrains nothing. -/
structure Selector where
  text : String := ""
  textStart : String := ""
  className : String := ""
  packageName : String := ""
  resourceId : String := ""
  scrollable : Bool := false
deriving Repr, DecidableEq, Inhabited

namespace Selector

/-- A call with a quoted argument, left out when the argument is empty. -/
def call (method argument : String) : String :=
  if argument = "" then "" else "." ++ method ++ "(" ++ Text.quote argument ++ ")"

def expression (s : Selector) : String :=
  "new UiSelector()" ++ call "text" s.text ++ call "textStartsWith" s.textStart ++
    call "className" s.className ++ call "packageName" s.packageName ++ call "resourceId" s.resourceId ++
    (if s.scrollable then ".scrollable(true)" else "")

/-- The expression that brings an element of a list into view. -/
def scrolling (container target : Selector) : String :=
  "new UiScrollable(" ++ container.expression ++ ").scrollIntoView(" ++ target.expression ++ ")"

end Selector
end WatchTrial
