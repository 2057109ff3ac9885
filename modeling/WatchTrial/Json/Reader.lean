import WatchTrial.Json.Basic
import WatchTrial.Text.Float
/-!
# Reading JSON

A text is read as one value with blanks around it. Strings may hold control characters as they are. An
escaped half of a surrogate pair without its other half reads as the replacement character. A number has
to fit into a float, and a whole one reads as the float it stands for.

A value can also be passed over. Then its strings only have to end, and what a backslash escapes is not
looked at.
-/
namespace WatchTrial.Json

def skipBlanks (cs : List Char) : List Char :=
  cs.dropWhile fun c => c == ' ' || c == '\t' || c == '\n' || c == '\r'

def hexValue? (c : Char) : Option Nat :=
  if '0' ≤ c ∧ c ≤ '9' then some (c.toNat - '0'.toNat)
  else if 'a' ≤ c ∧ c ≤ 'f' then some (c.toNat - 'a'.toNat + 10)
  else if 'A' ≤ c ∧ c ≤ 'F' then some (c.toNat - 'A'.toNat + 10)
  else none

def hex4? (a b c d : Char) : Option Nat := do
  let a ← hexValue? a
  let b ← hexValue? b
  let c ← hexValue? c
  let d ← hexValue? d
  return ((a * 16 + b) * 16 + c) * 16 + d

def escaped? (c : Char) : Option Char :=
  match c with
  | '"' => some '"'
  | '\\' => some '\\'
  | '/' => some '/'
  | 'b' => some '\x08'
  | 'f' => some '\x0c'
  | 'n' => some '\n'
  | 'r' => some '\r'
  | 't' => some '\t'
  | _ => none

/-- The character that stands for half of a surrogate pair. -/
def replacement : Char := '�'

/-- Reads a string after its opening quote; `read` are the characters so far, the latest first, and `high`
is the first half of a surrogate pair that was read last. -/
def readString (high : Option Nat) (read : List Char) : List Char → Option (String × List Char)
  | '\\' :: 'u' :: a :: b :: c :: d :: rest =>
    match hex4? a b c d, high with
    | none, _ => none
    | some unit, high =>
      let isHigh := decide (0xd800 ≤ unit ∧ unit < 0xdc00)
      let isLow := decide (0xdc00 ≤ unit ∧ unit < 0xe000)
      match high, isLow with
      | some first, true =>
        readString none (Char.ofNat (0x10000 + (first - 0xd800) * 0x400 + (unit - 0xdc00)) :: read) rest
      | high, isLow =>
        let read := if high.isSome then replacement :: read else read
        if isHigh then readString (some unit) read rest
        else readString none ((if isLow then replacement else Char.ofNat unit) :: read) rest
  | '\\' :: c :: rest =>
    match escaped? c with
    | none => none
    | some ch => readString none (ch :: (if high.isSome then replacement :: read else read)) rest
  | '"' :: rest => some (String.ofList (if high.isSome then replacement :: read else read).reverse, rest)
  | c :: rest =>
    if c = '\\' then none
    else readString none (c :: (if high.isSome then replacement :: read else read)) rest
  | [] => none

/-- Passes over a string after its opening quote. -/
def skipString : List Char → Option (List Char)
  | '"' :: rest => some rest
  | '\\' :: _ :: rest => skipString rest
  | _ :: rest => skipString rest
  | [] => none

def digits (cs : List Char) : List Char × List Char :=
  (cs.takeWhile Char.isDigit, cs.dropWhile Char.isDigit)

/-- Reads the fraction of a number, if there is one. -/
def readFraction (cs : List Char) : Option (List Char × List Char) :=
  match cs with
  | '.' :: rest =>
    match digits rest with
    | ([], _) => none
    | (ds, rest) => some ('.' :: ds, rest)
  | _ => some ([], cs)

/-- Reads the exponent of a number, if there is one. -/
def readExponent (cs : List Char) : Option (List Char × List Char) :=
  match cs with
  | e :: rest =>
    if e = 'e' ∨ e = 'E' then
      let (sign, rest) := match rest with
        | '+' :: rest => (['+'], rest)
        | '-' :: rest => (['-'], rest)
        | rest => ([], rest)
      match digits rest with
      | ([], _) => none
      | (ds, rest) => some (e :: sign ++ ds, rest)
    else some ([], cs)
  | [] => some ([], cs)

def takeMinus : List Char → List Char × List Char
  | '-' :: rest => (['-'], rest)
  | rest => ([], rest)

/-- Takes the whole part of a number, in which no digit follows a leading zero. -/
def takeWhole : List Char → Option (List Char × List Char)
  | '0' :: rest => some (['0'], rest)
  | rest => if (digits rest).1.isEmpty then none else some (digits rest)

/-- Takes a number as it is written. -/
def takeNumber (cs : List Char) : Option (List Char × List Char) := do
  let (sign, rest) := takeMinus cs
  let (whole, rest) ← takeWhole rest
  let (fraction, rest) ← readFraction rest
  let (exponent, rest) ← readExponent rest
  return (sign ++ whole ++ fraction ++ exponent, rest)

def readNumber (cs : List Char) : Option (Json × List Char) := do
  let (literal, rest) ← takeNumber cs
  let x ← Text.decimal? literal
  match Text.wholeOfFloat? x with
  | some n => return (int n, rest)
  | none => return (number (String.ofList literal), rest)

/-- How many arrays and objects may be open one inside the other. -/
def depthLimit : Nat := 4096

/-- Reads the name of a member, blanks before it and the colon after it included. -/
def memberName (cs : List Char) : Option (String × List Char) :=
  match skipBlanks cs with
  | '"' :: rest =>
    match readString none [] rest with
    | none => none
    | some (name, rest) =>
      match skipBlanks rest with
      | ':' :: rest => some (name, rest)
      | _ => none
  | _ => none

mutual

/-- Reads a value inside `depth` arrays and objects, blanks before it included. -/
def readValue (depth : Nat) : (fuel : Nat) → List Char → Option (Json × List Char)
  | 0, _ => none
  | fuel + 1, cs =>
    match skipBlanks cs with
    | 'n' :: 'u' :: 'l' :: 'l' :: rest => some (null, rest)
    | 't' :: 'r' :: 'u' :: 'e' :: rest => some (bool true, rest)
    | 'f' :: 'a' :: 'l' :: 's' :: 'e' :: rest => some (bool false, rest)
    | '"' :: rest => (readString none [] rest).map fun (s, rest) => (string s, rest)
    | '[' :: rest =>
      if depthLimit ≤ depth + 1 then none
      else
        match skipBlanks rest with
        | ']' :: rest => some (array [], rest)
        | rest => readItems (depth + 1) fuel [] rest
    | '{' :: rest =>
      match skipBlanks rest with
      | '}' :: rest => some (object [], rest)
      | rest => if depthLimit ≤ depth + 1 then none else readMembers (depth + 1) fuel [] rest
    | cs => readNumber cs

/-- Reads the items of an array after those in `items`, the latest first, up to its closing bracket. -/
def readItems (depth : Nat) : (fuel : Nat) → (items : List Json) → List Char → Option (Json × List Char)
  | 0, _, _ => none
  | fuel + 1, items, cs =>
    match readValue depth fuel cs with
    | none => none
    | some (item, rest) =>
      match skipBlanks rest with
      | ',' :: rest => readItems depth fuel (item :: items) rest
      | ']' :: rest => some (array (item :: items).reverse, rest)
      | _ => none

/-- Reads the members of an object after those in `members`, the latest first, up to its closing brace. -/
def readMembers (depth : Nat) :
    (fuel : Nat) → (members : List (String × Json)) → List Char → Option (Json × List Char)
  | 0, _, _ => none
  | fuel + 1, members, cs =>
    match memberName cs with
    | none => none
    | some (name, rest) =>
      match readValue depth fuel rest with
      | none => none
      | some (value, rest) =>
        match skipBlanks rest with
        | ',' :: rest => readMembers depth fuel ((name, value) :: members) rest
        | '}' :: rest => some (object ((name, value) :: members).reverse, rest)
        | _ => none

end

mutual

/-- Passes over a value inside `depth` arrays and objects, blanks before it included. -/
def skipValue (depth : Nat) : (fuel : Nat) → List Char → Option (List Char)
  | 0, _ => none
  | fuel + 1, cs =>
    match skipBlanks cs with
    | 'n' :: 'u' :: 'l' :: 'l' :: rest => some rest
    | 't' :: 'r' :: 'u' :: 'e' :: rest => some rest
    | 'f' :: 'a' :: 'l' :: 's' :: 'e' :: rest => some rest
    | '"' :: rest => skipString rest
    | '[' :: rest =>
      if depthLimit ≤ depth then none
      else
        match skipBlanks rest with
        | ']' :: rest => some rest
        | rest => skipItems (depth + 1) fuel rest
    | '{' :: rest =>
      if depthLimit ≤ depth then none
      else
        match skipBlanks rest with
        | '}' :: rest => some rest
        | rest => if depthLimit ≤ depth + 1 then none else skipMembers (depth + 1) fuel rest
    | cs => (takeNumber cs).map (·.2)

/-- Passes over the items of an array up to its closing bracket. -/
def skipItems (depth : Nat) : (fuel : Nat) → List Char → Option (List Char)
  | 0, _ => none
  | fuel + 1, cs =>
    match skipValue depth fuel cs with
    | none => none
    | some rest =>
      match skipBlanks rest with
      | ',' :: rest => if depthLimit ≤ depth then none else skipItems depth fuel rest
      | ']' :: rest => some rest
      | _ => none

/-- Passes over the members of an object up to its closing brace. -/
def skipMembers (depth : Nat) : (fuel : Nat) → List Char → Option (List Char)
  | 0, _ => none
  | fuel + 1, cs =>
    match skipBlanks cs with
    | '"' :: rest =>
      match (skipString rest).map skipBlanks with
      | some (':' :: rest) =>
        match skipValue depth fuel rest with
        | none => none
        | some rest =>
          match skipBlanks rest with
          | ',' :: rest => skipMembers depth fuel rest
          | '}' :: rest => some rest
          | _ => none
      | _ => none
    | _ => none

end

end WatchTrial.Json
