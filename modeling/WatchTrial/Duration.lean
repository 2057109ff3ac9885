import WatchTrial.Text.Decimal
/-!
# Durations as text

A duration is a sum of decimal numbers with units, such as `1h15m` or `1.5s`, with one sign in front. It
is counted in nanoseconds and refused when it does not fit into 64 bits.
-/
namespace WatchTrial.Duration

def unit? (name : String) : Option Nat :=
  if name = "ns" then some 1
  else if name = "us" ∨ name = "µs" ∨ name = "μs" then some 1000
  else if name = "ms" then some 1000000
  else if name = "s" then some 1000000000
  else if name = "m" then some 60000000000
  else if name = "h" then some 3600000000000
  else none

/-- The value of digits before a point, if it stays within 63 bits and one. -/
def whole? (acc : Nat) : List Char → Option Nat
  | [] => some acc
  | c :: rest =>
    if Nat.pow 2 63 / 10 < acc then none
    else
      let next := acc * 10 + (c.toNat - '0'.toNat)
      if Nat.pow 2 63 < next then none else whole? next rest

/-- The value of digits after a point and the power of ten it is counted in; digits past 63 bits are
dropped. -/
def fraction (acc scale : Nat) : List Char → Nat × Nat
  | [] => (acc, scale)
  | c :: rest =>
    let next := acc * 10 + (c.toNat - '0'.toNat)
    if (Nat.pow 2 63 - 1) / 10 < acc ∨ Nat.pow 2 63 < next then (acc, scale) else fraction next (scale * 10) rest

/-- The nanoseconds of a fraction of a unit, computed in floating point and cut off. -/
def fractionOf (unit acc scale : Nat) : Nat :=
  (Float.ofNat acc * (Float.ofNat unit / Float.ofNat scale)).toUInt64.toNat

/-- One number with its unit, and the rest of the text. -/
def term? (cs : List Char) : Option (Nat × List Char) := do
  let digits := cs.takeWhile Char.isDigit
  let cs := cs.dropWhile Char.isDigit
  let (after, cs) := match cs with
    | '.' :: rest => (rest.takeWhile Char.isDigit, rest.dropWhile Char.isDigit)
    | _ => ([], cs)
  if digits.isEmpty && after.isEmpty then none
  else
    let whole ← whole? 0 digits
    let isUnit (c : Char) : Bool := c != '.' && ! c.isDigit
    let unit ← unit? (String.ofList (cs.takeWhile isUnit))
    if Nat.pow 2 63 / unit < whole then none
    else
      let (part, scale) := fraction 0 1 after
      let total := whole * unit + (if part = 0 then 0 else fractionOf unit part scale)
      if Nat.pow 2 63 < total then none else some (total, cs.dropWhile isUnit)

def terms? : (fuel : Nat) → (acc : Nat) → List Char → Option Nat
  | _, acc, [] => some acc
  | 0, _, _ :: _ => none
  | fuel + 1, acc, cs =>
    match term? cs with
    | none => none
    | some (n, rest) => if Nat.pow 2 63 < acc + n then none else terms? fuel (acc + n) rest

def read? (s : String) : Option Int64 :=
  let (negative, cs) := Text.splitSign s.toList
  if cs = ['0'] then some 0
  else if cs.isEmpty then none
  else
    match terms? cs.length 0 cs with
    | none => none
    | some n =>
      if negative then some (Int64.ofInt (-(n : Int)))
      else if n < Nat.pow 2 63 then some (Int64.ofInt n)
      else none

/-- The digits of a fraction of `10 ^ width`, without zeros at the end, after a point if there are any. -/
def fractionText (width n : Nat) : String :=
  let digits := (toString n).toList
  let padded := List.replicate (width - digits.length) '0' ++ digits
  let shown := (padded.reverse.dropWhile (· == '0')).reverse
  if shown.isEmpty then "" else "." ++ String.ofList shown

/-- A number counted in `10 ^ width`, with its fraction. -/
def decimalText (width n : Nat) : String :=
  toString (n / Nat.pow 10 width) ++ fractionText width (n % Nat.pow 10 width)

/-- The text of a duration of some nanoseconds without sign. -/
def showMagnitude (n : Nat) : String :=
  if n = 0 then "0s"
  else if n < 1000 then decimalText 0 n ++ "ns"
  else if n < 1000000 then decimalText 3 n ++ "µs"
  else if n < 1000000000 then decimalText 6 n ++ "ms"
  else
    let seconds := n / 1000000000
    let minutes := seconds / 60
    let hours := minutes / 60
    (if hours = 0 then "" else toString hours ++ "h") ++
      (if minutes = 0 then "" else toString (minutes % 60) ++ "m") ++
      toString (seconds % 60) ++ fractionText 9 (n % 1000000000) ++ "s"

/-- The text of a duration: below a second in the largest small unit, else in hours, minutes and seconds. -/
def describe (d : Int64) : String :=
  (if d < 0 then "-" else "") ++ showMagnitude d.toInt.natAbs

end WatchTrial.Duration
