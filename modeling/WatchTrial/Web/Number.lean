import WatchTrial.Web.Escape
/-!
# Numeric hosts

A host between brackets is a number of eight groups of hexadecimal digits. A run of zero groups may be
left out once, and the last two groups may be written as four decimal numbers.
-/
namespace WatchTrial.Web.Number

/-- Why a text is no numeric host: in words, and where. -/
structure Problem where
  words : String
  place : Bytes := []
deriving Repr, DecidableEq, Inhabited

/-- Whether a byte is a decimal digit. -/
def isDecimal (b : UInt8) : Bool := byte '0' ≤ b && b ≤ byte '9'

/-- Reads four decimal numbers with dots between them. `before` is the byte before, `value` the number
read so far with its count of digits, `dots` how many dots were read. -/
def readDotted : (before : Option UInt8) → (value count dots : Nat) → Bytes → Except Problem Unit
  | _, _, _, dots, [] => if dots < 3 then .error ⟨"IPv4 address too short", []⟩ else .ok ()
  | before, value, count, dots, b :: rest =>
    if isDecimal b then
      if count = 1 ∧ value = 0 then .error ⟨"IPv4 field has octet with leading zero", []⟩
      else
        let value := value * 10 + (b - byte '0').toNat
        if 255 < value then .error ⟨"IPv4 field has value >255", []⟩
        else readDotted (some b) value (count + 1) dots rest
    else if b = byte '.' then
      if before.isNone || rest.isEmpty || before == some (byte '.') then
        .error ⟨"IPv4 field must have at least one digit", b :: rest⟩
      else if dots = 3 then .error ⟨"IPv4 address too long", []⟩
      else readDotted (some b) 0 0 (dots + 1) rest
    else .error ⟨"unexpected character", b :: rest⟩

/-- Checks the end of a number: every byte is used, and the groups fill it with what was left out. -/
def finish (groups : Nat) (skipped : Bool) (rest : Bytes) : Except Problem Unit :=
  if ! rest.isEmpty then .error ⟨"trailing garbage after address", rest⟩
  else if groups < 8 then
    if skipped then .ok () else .error ⟨"address string too short", []⟩
  else if skipped then .error ⟨"the :: must expand to at least one field of zeros", []⟩
  else .ok ()

/-- Reads groups. `left` is how many groups still fit, `skipped` whether a run of zeros was left out. -/
def readGroups : (left : Nat) → (skipped : Bool) → Bytes → Except Problem Unit
  | 0, skipped, bytes => finish 8 skipped bytes
  | left + 1, skipped, bytes =>
    let digits := bytes.takeWhile fun b => (hexValue? b).isSome
    let rest := bytes.drop digits.length
    if 4 < digits.length then .error ⟨"each group must have 4 or less digits", bytes⟩
    else if digits.isEmpty then .error ⟨"each colon-separated field must have at least one digit", bytes⟩
    else
      match rest with
      | [] => finish (8 - left) skipped []
      | b :: more =>
        if b = byte '.' then
          if ! skipped && left + 1 != 2 then
            .error ⟨"embedded IPv4 address must replace the final 2 fields of the address", bytes⟩
          else if left = 0 then
            .error ⟨"too many hex fields to fit an embedded IPv4 at the end of the address", bytes⟩
          else do
            readDotted none 0 0 0 bytes
            finish (8 - left + 1) skipped []
        else if b != byte ':' then .error ⟨"unexpected character, want colon", rest⟩
        else
          match more with
          | [] => .error ⟨"colon must be followed by more characters", rest⟩
          | c :: after =>
            if c = byte ':' then
              if skipped then .error ⟨"multiple :: in address", more⟩
              else if after.isEmpty then finish (8 - left) true []
              else readGroups left true after
            else readGroups left skipped more

/-- Reads a number of eight groups, with a zone after a percent sign. -/
def readGrouped (bytes : Bytes) : Except Problem Unit :=
  let number := bytes.takeWhile (· != byte '%')
  if bytes.length = number.length + 1 then .error ⟨"zone must be a non-empty string", []⟩
  else
    match number with
    | a :: b :: rest =>
      if a = byte ':' ∧ b = byte ':' then
        if rest.isEmpty then .ok () else readGroups 8 true rest
      else readGroups 8 false number
    | _ => readGroups 8 false number

def check (bytes : Bytes) : Except Flaw Unit :=
  let named (r : Except Problem Unit) : Except Flaw Unit :=
    r.mapError fun p =>
      .badNumber ("ParseAddr(" ++ quoteBytes bytes ++ "): " ++ p.words ++
        (if p.place.isEmpty then "" else " (at " ++ quoteBytes p.place ++ ")"))
  match bytes.find? fun b => b == byte '.' || b == byte ':' || b == byte '%' with
  | some b =>
    if b = byte '.' then do
      named (readDotted none 0 0 0 bytes)
      .error .notNumber
    else if b = byte ':' then named (readGrouped bytes)
    else named (.error ⟨"missing IPv6 address", []⟩)
  | none => named (.error ⟨"unable to parse IP", []⟩)

end WatchTrial.Web.Number
