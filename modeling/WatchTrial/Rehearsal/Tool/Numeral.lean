import WatchTrial.Rehearsal.Tool.Basic
/-!
# Numbers as tools read and write them

Whole numbers are read in base ten, or in another base after a mark: in base eight after a zero, in base two
after `0b`, and in base sixteen after `0x`. Numbers with
a fraction are read as fractions, rounded to a number of binary digits, and written from that value alone.
-/
namespace WatchTrial.Rehearsal

def digitIn? (base : Nat) (c : Char) : Option Nat :=
  let value? : Option Nat :=
    if c.isDigit then some (c.toNat - '0'.toNat)
    else if 'a' ≤ c ∧ c ≤ 'f' then some (c.toNat - 'a'.toNat + 10)
    else if 'A' ≤ c ∧ c ≤ 'F' then some (c.toNat - 'A'.toNat + 10)
    else none
  value?.filter (· < base)

/-- The number of digits at the start of bytes, and what follows them. -/
def takeDigits (base : Nat) (bytes : Bytes) : Nat × Bytes :=
  let digits := bytes.takeWhile fun c => (digitIn? base c).isSome
  (digits.foldl (fun n c => n * base + (digitIn? base c).getD 0) 0, bytes.drop digits.length)

/-- Whether a byte is a blank. -/
def isBlankByte (c : Char) : Bool := c == ' ' || ('\t' ≤ c && c ≤ '\r')

/-- A number as it was read: its value, and what follows it. -/
structure Numeral where
  negative : Bool := false
  magnitude : Nat := 0
  rest : Bytes := []
deriving Inhabited

namespace Numeral

/-- The digits of a number with the mark of its base. -/
def readMagnitude? (bytes : Bytes) : Option (Nat × Bytes) :=
  match bytes with
  | '0' :: x :: c :: rest =>
    if (x = 'x' ∨ x = 'X') ∧ (digitIn? 16 c).isSome then some (takeDigits 16 (c :: rest))
    else if (x = 'b' ∨ x = 'B') ∧ (digitIn? 2 c).isSome then some (takeDigits 2 (c :: rest))
    else some (takeDigits 8 bytes)
  | '0' :: _ => some (takeDigits 8 bytes)
  | c :: _ => if c.isDigit then some (takeDigits 10 bytes) else none
  | [] => none

/-- Reads a whole number at the start of bytes; if there is none, nothing is taken. -/
def read (bytes : Bytes) : Numeral :=
  let (negative, digits) := Text.splitSign (bytes.dropWhile isBlankByte)
  match readMagnitude? digits with
  | some (magnitude, rest) => { negative, magnitude, rest }
  | none => { rest := bytes }

/-- The value as a signed number of 64 bits, and whether it fits. -/
def signed (n : Numeral) : Int × Bool :=
  if n.negative then if n.magnitude ≤ Nat.pow 2 63 then (-(n.magnitude : Int), true) else (-(Nat.pow 2 63 : Int), false)
  else if n.magnitude < Nat.pow 2 63 then (n.magnitude, true)
  else (Nat.pow 2 63 - 1, false)

/-- The value as an unsigned number of 64 bits, and whether it fits. -/
def unsigned (n : Numeral) : Nat × Bool :=
  if n.magnitude < Nat.pow 2 64 then
    (if n.negative ∧ n.magnitude ≠ 0 then Nat.pow 2 64 - n.magnitude else n.magnitude, true)
  else (Nat.pow 2 64 - 1, false)

end Numeral

/-- A number with a fraction: a numerator over a denominator that is not zero. -/
structure Fraction where
  negative : Bool := false
  num : Nat := 0
  den : Nat := 1
deriving Repr, DecidableEq, Inhabited

namespace Fraction

/-- Division with the nearest result, a tie going to the even one. -/
def nearest (num den : Nat) : Nat :=
  let q := num / den
  let r := num % den
  if 2 * r < den then q else if den < 2 * r then q + 1 else q + q % 2

/-- The number of a power, which may be negative, times a fraction. -/
def scale (base : Nat) (power : Int) (x : Fraction) : Fraction :=
  if 0 ≤ power then { x with num := x.num * Nat.pow base power.natAbs } else { x with den := x.den * Nat.pow base power.natAbs }

/-- A number without a sign at the start of bytes, the number of its places, and what follows it. -/
def readUnsigned? (bytes : Bytes) : Option (Fraction × Nat × Bytes) :=
  let (whole, rest) := takeDigits 10 bytes
  let (places, digits, rest) :=
    match rest with
    | '.' :: after =>
      let (fraction, rest) := takeDigits 10 after
      (after.length - rest.length, whole * Nat.pow 10 (after.length - rest.length) + fraction, rest)
    | rest => (0, whole, rest)
  if bytes.headD ' ' ≠ '.' ∧ ¬ (bytes.headD ' ').isDigit then none
  else if bytes.headD ' ' = '.' ∧ places = 0 then none
  else
    let exponent? : Option (Int × Bytes) :=
      match rest with
      | e :: after =>
        let (down, digits) := Text.splitSign after
        if (e = 'e' ∨ e = 'E') ∧ (digits.headD ' ').isDigit then
          let (n, rest) := takeDigits 10 digits
          some (if down then -(min n 5000 : Int) else min n 5000, rest)
        else none
      | [] => none
    let (exponent, rest) := exponent?.getD (0, rest)
    some (scale 10 (exponent - places) { num := digits }, (places - exponent).toNat, rest)

/-- A number at the start of bytes, the number of its places, and what follows it. After `0x` it is a whole
number in base sixteen. -/
def read? (bytes : Bytes) : Option (Fraction × Nat × Bytes) :=
  let (negative, bytes) := Text.splitSign (bytes.dropWhile isBlankByte)
  let unsigned? : Option (Fraction × Nat × Bytes) :=
    match bytes with
    | '0' :: x :: c :: rest =>
      if (x = 'x' ∨ x = 'X') ∧ (digitIn? 16 c).isSome then
        let (n, rest) := takeDigits 16 (c :: rest)
        some ({ num := n }, 0, rest)
      else readUnsigned? bytes
    | bytes => readUnsigned? bytes
  unsigned?.map fun (x, places, rest) => ({ x with negative }, places, rest)

/-- A number rounded to a number of binary digits. -/
def round (bits : Nat) (x : Fraction) : Fraction :=
  if x.num = 0 then x
  else
    let power : Int := (x.num.log2 : Int) - x.den.log2 - bits
    let at_ (power : Int) : Nat := let y := scale 2 (-power) x; nearest y.num y.den
    let power := if at_ power < Nat.pow 2 bits then power else power + 1
    scale 2 power { x with num := at_ power, den := 1 }

/-- A number with a fixed number of places. -/
def fixed (places : Nat) (point : Bool) (x : Fraction) : Bytes :=
  let digits := Nat.toDigits 10 (nearest (x.num * Nat.pow 10 places) x.den)
  let digits := List.replicate (places + 1 - digits.length) '0' ++ digits
  digits.take (digits.length - places) ++
    (if places = 0 ∧ ¬ point then [] else '.' :: digits.drop (digits.length - places))

/-- The power of ten of the first digit of a number that has a number of digits after it, searched from a
first guess. -/
def powerFrom (x : Fraction) (places : Nat) : (fuel : Nat) → Int → Int
  | 0, power => power
  | fuel + 1, power =>
    let y := scale 10 (places - power) x
    let n := nearest y.num y.den
    if n < Nat.pow 10 places then powerFrom x places fuel (power - 1)
    else if Nat.pow 10 (places + 1) ≤ n then powerFrom x places fuel (power + 1)
    else power

/-- The power of ten of the first digit of a number that has a number of digits after it. -/
def power (places : Nat) (x : Fraction) : Int :=
  if x.num = 0 then 0
  else powerFrom x places 8 (((x.num.log2 : Int) - x.den.log2) * 30103 / 100000)

def scientific (places : Nat) (point : Bool) (mark : Char) (x : Fraction) : Bytes :=
  let power := power places x
  let exponent := Nat.toDigits 10 power.natAbs
  fixed places point (scale 10 (-power) x) ++ [mark, if power < 0 then '-' else '+'] ++
    List.replicate (2 - exponent.length) '0' ++ exponent

/-- Bytes without zeros at the end of their fraction. -/
def dropZeros (bytes : Bytes) : Bytes :=
  if ! bytes.contains '.' then bytes
  else
    match bytes.reverse.dropWhile (· == '0') with
    | '.' :: rest => rest.reverse
    | rest => rest.reverse

/-- A number in the shorter of the two notations, with a number of digits in all. -/
def general (digits : Nat) (full : Bool) (mark : Char) (x : Fraction) : Bytes :=
  let digits := max digits 1
  let power := power (digits - 1) x
  let trim := fun (bytes : Bytes) => if full then bytes else dropZeros bytes
  if power < -4 ∨ (digits : Int) ≤ power then
    let text := scientific (digits - 1) full mark x
    trim (text.takeWhile (· != mark)) ++ text.dropWhile (· != mark)
  else trim (fixed ((digits : Int) - 1 - power).toNat full x)

end Fraction
end WatchTrial.Rehearsal
