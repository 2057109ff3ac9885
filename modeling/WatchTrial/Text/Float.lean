import WatchTrial.Text.Decimal
/-!
# Decimals as floats

A decimal with a fraction and an exponent stands for the float that is nearest to it.
-/
namespace WatchTrial.Text

def digitsValue (cs : List Char) : Nat :=
  cs.foldl (fun n c => n * 10 + (c.toNat - '0'.toNat)) 0

/-- The value of the digits of an exponent, of which those beyond the fifth do not count. -/
def exponentValue (digits : List Char) : Nat :=
  digits.foldl (fun n c => if n < 10000 then n * 10 + (c.toNat - '0'.toNat) else n) 0

/-- Reads an optional exponent: nothing may follow it. -/
def exponent? : List Char → Option Int
  | [] => some 0
  | c :: rest =>
    if c = 'e' ∨ c = 'E' then
      let (negative, digits) := splitSign rest
      if digits.isEmpty ∨ ¬ digits.all Char.isDigit then none
      else some (if negative then -(exponentValue digits : Int) else exponentValue digits)
    else none

/-- How many digits decide which float is nearest; of the further ones it only matters whether they are all
zero. -/
def decisiveDigits : Nat := 800

/-- A number for digits, and the power of ten to multiply it with, that lead to the same float. -/
def significand (digits : List Char) : Nat × Nat :=
  let digits := digits.dropWhile (· == '0')
  let further := digits.drop decisiveDigits
  if further.isEmpty then (digitsValue digits, 0)
  else
    let last := if further.all (· == '0') then '0' else '1'
    (digitsValue (digits.take decisiveDigits ++ [last]), further.length - 1)

/-- A decimal number with optional fraction and exponent. One too large for a float is none. -/
def decimal? (cs : List Char) : Option Float :=
  let (negative, cs) := splitSign cs
  let whole := cs.takeWhile Char.isDigit
  let (fraction, rest) := match cs.dropWhile Char.isDigit with
    | '.' :: rest => (rest.takeWhile Char.isDigit, rest.dropWhile Char.isDigit)
    | rest => ([], rest)
  if whole.isEmpty ∧ fraction.isEmpty then none
  else
    match exponent? rest with
    | none => none
    | some e =>
      let (digits, shift) := significand (whole ++ fraction)
      let e := e - fraction.length + shift
      let x : Float :=
        if digits = 0 then 0
        else if 400 < e then 1 / 0
        else if e < -1300 then 0
        else Float.ofScientific digits (e < 0) e.natAbs
      if x.isInf then none else some (if negative then -x else x)

/-- The whole number that a float is, if it is one. -/
def wholeOfFloat? (x : Float) : Option Int :=
  let bits := x.toBits.toNat
  let power := bits / Nat.pow 2 52 % Nat.pow 2 11
  let fraction := bits % Nat.pow 2 52
  let signed (n : Nat) : Int := if Nat.pow 2 63 ≤ bits then -(n : Int) else n
  if power = 2047 then none
  else
    let (m, e) := if power = 0 then (fraction, 1) else (Nat.pow 2 52 + fraction, power)
    if 1075 ≤ e then some (signed (m * Nat.pow 2 (e - 1075)))
    else if m % Nat.pow 2 (1075 - e) = 0 then some (signed (m / Nat.pow 2 (1075 - e)))
    else none

end WatchTrial.Text
