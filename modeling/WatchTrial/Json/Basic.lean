/-!
# JSON values

Numbers are kept as they are written, since none is ever computed with. Objects keep the order of their
members, and a name may occur more than once.
-/
namespace WatchTrial

inductive Json where
  | null
  | bool (b : Bool)
  | number (literal : String)
  | string (s : String)
  | array (items : List Json)
  | object (members : List (String × Json))
deriving Inhabited, Repr

namespace Json

/-- A whole number. -/
def int (n : Int) : Json := number (toString n)

/-- The text of a value that is a string, else nothing. -/
def stringOrEmpty : Json → String
  | string s => s
  | _ => ""

/-- Whether a value is the boolean `true`. -/
def isTrue : Json → Bool
  | bool b => b
  | _ => false

/-- The value of the last member with a name. -/
def member? (name : String) : List (String × Json) → Option Json
  | [] => none
  | (key, value) :: rest => member? name rest <|> if key = name then some value else none

end Json
end WatchTrial
