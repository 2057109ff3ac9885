import WatchTrial.Text.Float
/-!
# Dates and times as plain text

A date is a year of four digits, a month and a day of one or two digits each; a time of day may follow
with its parts in one or two digits and a fraction of a second. Only whether a text is one matters here.
-/
namespace WatchTrial.Yaml

open Text (digitsValue)

def daysInMonth (year month : Nat) : Nat :=
  if month = 2 then
    if year % 4 = 0 ∧ (year % 100 ≠ 0 ∨ year % 400 = 0) then 29 else 28
  else if month = 4 ∨ month = 6 ∨ month = 9 ∨ month = 11 then 30
  else 31

/-- Takes exactly `n` digits. -/
def exactDigits? (n : Nat) (cs : List Char) : Option (Nat × List Char) :=
  let digits := cs.take n
  if digits.length = n ∧ digits.all Char.isDigit then some (digitsValue digits, cs.drop n) else none

def shortDigits? (cs : List Char) : Option (Nat × List Char) :=
  (exactDigits? 2 cs).or (exactDigits? 1 cs)

def mark? (c : Char) : List Char → Option (List Char)
  | d :: rest => if c = d then some rest else none
  | [] => none

def date? (cs : List Char) : Option (List Char) := do
  let (year, cs) ← exactDigits? 4 cs
  let (month, cs) ← shortDigits? (← mark? '-' cs)
  let (day, cs) ← shortDigits? (← mark? '-' cs)
  if 1 ≤ month ∧ month ≤ 12 ∧ 1 ≤ day ∧ day ≤ daysInMonth year month then some cs else none

/-- Takes a fraction of a second, if there is one. -/
def skipFraction : List Char → List Char
  | c :: d :: rest => if (c = '.' ∨ c = ',') ∧ d.isDigit then rest.dropWhile Char.isDigit else c :: d :: rest
  | cs => cs

def timeOfDay? (cs : List Char) : Option (List Char) := do
  let (hour, cs) ← shortDigits? cs
  let (minute, cs) ← shortDigits? (← mark? ':' cs)
  let (second, cs) ← shortDigits? (← mark? ':' cs)
  if hour < 24 ∧ minute < 60 ∧ second < 60 then some (skipFraction cs) else none

def offset? : List Char → Option (List Char)
  | 'Z' :: rest => some rest
  | c :: rest =>
    if c = '+' ∨ c = '-' then do
      let (hour, rest) ← exactDigits? 2 rest
      let (minute, rest) ← exactDigits? 2 (← mark? ':' rest)
      if hour ≤ 24 ∧ minute ≤ 60 then some rest else none
    else none
  | [] => none

/-- Whether a text is a date, or a date with a time of day after blanks or a letter. -/
def isTimestamp (s : String) : Bool :=
  match date? s.toList with
  | none => false
  | some [] => true
  | some (' ' :: cs) => timeOfDay? (cs.dropWhile (· == ' ')) == some []
  | some (c :: cs) => (c == 'T' || c == 't') && (timeOfDay? cs >>= offset?) == some []

end WatchTrial.Yaml
