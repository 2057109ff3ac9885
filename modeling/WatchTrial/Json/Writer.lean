import WatchTrial.Json.Basic
import WatchTrial.Text.Quoted
/-!
# Writing JSON

Values are written compactly or indented by two blanks. In strings only quotes, backslashes and control
characters are escaped; tab, line feed and carriage return have short escapes.
-/
namespace WatchTrial.Json

/-- How one character is written in a string. -/
def escapeChar (c : Char) : List Char :=
  if c = '"' then ['\\', '"']
  else if c = '\\' then ['\\', '\\']
  else if c = '\t' then ['\\', 't']
  else if c = '\n' then ['\\', 'n']
  else if c = '\r' then ['\\', 'r']
  else if c.toNat < 0x20 then '\\' :: 'u' :: Text.hexDigits 4 c.toNat
  else [c]

def writeString (s : String) : String :=
  "\"" ++ String.ofList (s.toList.flatMap escapeChar) ++ "\""

mutual

def compact : Json → String
  | null => "null"
  | bool b => if b then "true" else "false"
  | number literal => literal
  | string s => writeString s
  | array items => "[" ++ ",".intercalate (compactItems items) ++ "]"
  | object members => "\x7b" ++ ",".intercalate (compactMembers members) ++ "\x7d"

/-- The items of an array, each on one line. -/
def compactItems : List Json → List String
  | [] => []
  | item :: rest => item.compact :: compactItems rest

/-- The members of an object, each on one line. -/
def compactMembers : List (String × Json) → List String
  | [] => []
  | (name, value) :: rest => (writeString name ++ ":" ++ value.compact) :: compactMembers rest

end

/-- A line feed and the blanks of a depth. -/
def newline (depth : Nat) : String :=
  "\n" ++ String.ofList (List.replicate (2 * depth) ' ')

/-- Parts between brackets, each on lines of its own one step further in. -/
def block (opening closing : String) (depth : Nat) : List String → String
  | [] => opening ++ closing
  | parts =>
    opening ++ newline (depth + 1) ++ ("," ++ newline (depth + 1)).intercalate parts ++
      newline depth ++ closing

mutual

def indentAt (depth : Nat) : Json → String
  | null => "null"
  | bool b => if b then "true" else "false"
  | number literal => literal
  | string s => writeString s
  | array items => block "[" "]" depth (indentItems (depth + 1) items)
  | object members => block "\x7b" "\x7d" depth (indentMembers (depth + 1) members)

def indentItems (depth : Nat) : List Json → List String
  | [] => []
  | item :: rest => item.indentAt depth :: indentItems depth rest

def indentMembers (depth : Nat) : List (String × Json) → List String
  | [] => []
  | (name, value) :: rest => (writeString name ++ ": " ++ value.indentAt depth) :: indentMembers depth rest

end

def indented (value : Json) : String :=
  value.indentAt 0

end WatchTrial.Json
