/-!
# Base 64

Four characters stand for three bytes; the last group is filled up with equals signs.
-/
namespace WatchTrial.Text

/-- The six bits a character stands for. -/
def sextet? (c : Char) : Option Nat :=
  if 'A' ≤ c ∧ c ≤ 'Z' then some (c.toNat - 'A'.toNat)
  else if 'a' ≤ c ∧ c ≤ 'z' then some (c.toNat - 'a'.toNat + 26)
  else if '0' ≤ c ∧ c ≤ '9' then some (c.toNat - '0'.toNat + 52)
  else if c = '+' then some 62
  else if c = '/' then some 63
  else none

/-- The bytes of a text without line breaks, adding to those read before, the latest first. -/
def bytesOfGroups? (bytes : List UInt8) : List Char → Option (List UInt8)
  | [] => some bytes.reverse
  | [a, b, '=', '='] => do
    let n := (← sextet? a) * 64 + (← sextet? b)
    some (UInt8.ofNat (n / 16) :: bytes).reverse
  | [a, b, c, '='] => do
    let n := ((← sextet? a) * 64 + (← sextet? b)) * 64 + (← sextet? c)
    some (UInt8.ofNat (n / 4) :: UInt8.ofNat (n / 1024) :: bytes).reverse
  | a :: b :: c :: d :: rest =>
    match sextet? a, sextet? b, sextet? c, sextet? d with
    | some a, some b, some c, some d =>
      let n := ((a * 64 + b) * 64 + c) * 64 + d
      bytesOfGroups? (UInt8.ofNat n :: UInt8.ofNat (n / 256) :: UInt8.ofNat (n / 65536) :: bytes) rest
    | _, _, _, _ => none
  | _ => none

/-- The bytes that a text stands for; line breaks in it have no meaning. -/
def bytesOfBase64? (s : String) : Option (List UInt8) :=
  bytesOfGroups? [] (s.toList.filter fun c => c != '\n' && c != '\r')

end WatchTrial.Text
