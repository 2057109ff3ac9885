import WatchTrial.Text.Decimal
/-!
# Integer literals

A literal may have a sign, and its start tells its base: `0x`, `0o` and `0b`, or a bare `0` for eight. An
underscore may stand between two digits and after the start.
-/
namespace WatchTrial.Text.Literal

def digit? (c : Char) : Option Nat :=
  if '0' ≤ c ∧ c ≤ '9' then some (c.toNat - '0'.toNat)
  else if 'a' ≤ c.toLower ∧ c.toLower ≤ 'z' then some (c.toLower.toNat - 'a'.toNat + 10)
  else none

/-- Reads digits of a base, leaving underscores out. -/
def readDigits (base : Nat) (acc : Nat) : List Char → Except NumberFault Nat
  | [] => .ok acc
  | '_' :: rest => readDigits base acc rest
  | c :: rest =>
    match digit? c with
    | none => .error .malformed
    | some d =>
      if base ≤ d then .error .malformed
      else if Nat.pow 2 64 ≤ acc * base + d then .error .outOfRange
      else readDigits base (acc * base + d) rest

/-- The base that the start of a literal tells, and its digits. -/
def splitBase : List Char → Nat × List Char
  | '0' :: m :: c :: rest =>
    if m.toLower = 'b' then (2, c :: rest)
    else if m.toLower = 'o' then (8, c :: rest)
    else if m.toLower = 'x' then (16, c :: rest)
    else (8, m :: c :: rest)
  | '0' :: rest => (8, rest)
  | cs => (10, cs)

/-- What the character before was, when underscores are checked. -/
inductive Seen where
  | start
  | digit
  | underscore
  | other
deriving Repr, DecidableEq

/-- Whether every underscore stands between two digits. -/
def separates (hexadecimal : Bool) : (seen : Seen) → List Char → Bool
  | seen, [] => seen != .underscore
  | seen, c :: rest =>
    if ('0' ≤ c && c ≤ '9') || (hexadecimal && 'a' ≤ c.toLower && c.toLower ≤ 'f') then
      separates hexadecimal .digit rest
    else if c == '_' then seen == .digit && separates hexadecimal .underscore rest
    else seen != .underscore && separates hexadecimal .other rest

/-- Whether the underscores of a literal without its sign stand where they may. -/
def underscoresFit : List Char → Bool
  | '0' :: m :: rest =>
    if m.toLower = 'b' ∨ m.toLower = 'o' then separates false .digit rest
    else if m.toLower = 'x' then separates true .digit rest
    else separates false .start ('0' :: m :: rest)
  | cs => separates false .start cs

/-- Reads an optionally signed literal of 64 bits. -/
def read (cs : List Char) : Except NumberFault Int64 :=
  match splitSign cs with
  | (_, []) => .error .malformed
  | (negative, digits) => do
    let (base, body) := splitBase digits
    let n ← readDigits base 0 body
    if body.contains '_' && ! underscoresFit digits then throw .malformed
    signed64 negative n

end WatchTrial.Text.Literal
