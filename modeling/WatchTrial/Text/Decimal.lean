/-!
# Signed 64-bit decimals

Reading accepts an optional sign and at least one digit. A value outside 64 bits is refused; the
refusal is a range error as soon as the digits read so far pass `2^64`, whatever follows them.
-/
namespace WatchTrial.Text

inductive NumberFault where
  | malformed
  | outOfRange
deriving Repr, DecidableEq

def NumberFault.message : NumberFault → String
  | .malformed => "invalid syntax"
  | .outOfRange => "value out of range"

def digitValue? (c : Char) : Option Nat :=
  if '0' ≤ c ∧ c ≤ '9' then some (c.toNat - '0'.toNat) else none

/-- Folds digits into `acc` from the left, refusing at the first non-digit or once `2^64` is reached. -/
def readDigits (acc : Nat) : List Char → Except NumberFault Nat
  | [] => .ok acc
  | c :: rest =>
    match digitValue? c with
    | none => .error .malformed
    | some d => if Nat.pow 2 64 ≤ acc * 10 + d then .error .outOfRange else readDigits (acc * 10 + d) rest

/-- Whether a number has a minus sign, and its text without the sign. -/
def splitSign : List Char → Bool × List Char
  | '-' :: rest => (true, rest)
  | '+' :: rest => (false, rest)
  | cs => (false, cs)

/-- The signed number of a magnitude, when it fits into 64 bits. -/
def signed64 (negative : Bool) (magnitude : Nat) : Except NumberFault Int64 :=
  if negative then
    if Nat.pow 2 63 < magnitude then .error .outOfRange else .ok (Int64.ofInt (-(magnitude : Int)))
  else if Nat.pow 2 63 ≤ magnitude then .error .outOfRange
  else .ok (Int64.ofInt magnitude)

/-- Reads an optionally signed decimal of 64 bits. -/
def readInt64 (cs : List Char) : Except NumberFault Int64 :=
  match splitSign cs with
  | (_, []) => .error .malformed
  | (negative, digits) => do signed64 negative (← readDigits 0 digits)

/-- The shortest decimal of a signed number. -/
def showInt64 (n : Int64) : String :=
  toString n.toInt

end WatchTrial.Text
