import WatchTrial.Yaml.Node
import WatchTrial.Yaml.Timestamp
import WatchTrial.Text.Base64
import WatchTrial.Text.Float
import WatchTrial.Text.Utf8
/-!
# What a plain scalar stands for

The words for null and for truth values, numbers in four bases and with a fraction, dates; all else is
text. An explicit tag asks for one of these.
-/
namespace WatchTrial.Yaml

open Text (decimal?)

inductive Value where
  | null
  | bool (b : Bool)
  | int (n : Int)
  | float (x : Float)
  | date
  | text (s : String)

/-- The tag of a value; a text may have one of its own. -/
def Value.tag : Value → String
  | .null => "!!null"
  | .bool _ => "!!bool"
  | .int _ => "!!int"
  | .float _ => "!!float"
  | .date => "!!timestamp"
  | .text _ => "!!str"

def wideDigit? (c : Char) : Option Nat :=
  if '0' ≤ c ∧ c ≤ '9' then some (c.toNat - '0'.toNat)
  else if 'a' ≤ c ∧ c ≤ 'z' then some (c.toNat - 'a'.toNat + 10)
  else if 'A' ≤ c ∧ c ≤ 'Z' then some (c.toNat - 'A'.toNat + 10)
  else none

/-- Reads digits of a base, up to 64 bits. -/
def readBase (base : Nat) (acc : Nat) : List Char → Option Nat
  | [] => some acc
  | c :: rest =>
    match wideDigit? c with
    | some d => if d < base ∧ acc < Nat.pow 2 64 then readBase base (acc * base + d) rest else none
    | none => none

/-- A number without sign whose base is told by its start: `0x`, `0b`, `0o` or a bare `0` for eight. -/
def magnitude? : List Char → Option Nat
  | [] => none
  | '0' :: b :: c :: rest =>
    if b = 'x' ∨ b = 'X' then readBase 16 0 (c :: rest)
    else if b = 'b' ∨ b = 'B' then readBase 2 0 (c :: rest)
    else if b = 'o' ∨ b = 'O' then readBase 8 0 (c :: rest)
    else readBase 8 0 (b :: c :: rest)
  | '0' :: rest => readBase 8 0 rest
  | cs => readBase 10 0 cs

/-- A number of 64 bits: signed when it fits, or without sign; `read?` gives the value of digits. -/
def word64? (read? : List Char → Option Nat) (cs : List Char) : Option Int :=
  let (negative, digits) := Text.splitSign cs
  match read? digits with
  | none => none
  | some n =>
    if negative then if n ≤ Nat.pow 2 63 then some (-(n : Int)) else none
    else if n < Nat.pow 2 63 then some n
    else if cs.head? == some '+' then none
    else if n < Nat.pow 2 64 then some n
    else none

/-- An integer whose base is told by the start of its digits. -/
def integer? (cs : List Char) : Option Int := word64? magnitude? cs

/-- Digits of one base, of which there has to be one. -/
def digits? (base : Nat) (cs : List Char) : Option Nat :=
  if cs.isEmpty then none else readBase base 0 cs

/-- An integer of base two or eight with its sign after the mark of the base, or with a minus before it. -/
def markedInteger? : List Char → Option Int
  | '0' :: 'b' :: rest => word64? (digits? 2) rest
  | '0' :: 'o' :: rest => word64? (digits? 8) rest
  | '-' :: '0' :: 'b' :: rest => word64? (digits? 2) ('-' :: rest)
  | '-' :: '0' :: 'o' :: rest => word64? (digits? 8) ('-' :: rest)
  | _ => none

/-- Whether underscores stand only between digits; `afterDigit` says that a digit comes before. -/
def underscoresFit (afterDigit : Bool) : List Char → Bool
  | [] => true
  | '_' :: d :: rest => afterDigit && d.isDigit && underscoresFit true rest
  | ['_'] => false
  | c :: rest => underscoresFit c.isDigit rest

/-- A decimal number whose digits may be grouped by underscores. -/
def groupedDecimal? (cs : List Char) : Option Float :=
  if underscoresFit false cs then decimal? (cs.filter (· != '_')) else none

/-- The words that stand for something else than themselves. -/
def word? (s : String) : Option Value :=
  if ["", "~", "null", "Null", "NULL"].contains s then some .null
  else if ["true", "True", "TRUE"].contains s then some (.bool true)
  else if ["false", "False", "FALSE"].contains s then some (.bool false)
  else if [".nan", ".NaN", ".NAN"].contains s then some (.float (0 / 0))
  else if [".inf", ".Inf", ".INF", "+.inf", "+.Inf", "+.INF"].contains s then some (.float (1 / 0))
  else if ["-.inf", "-.Inf", "-.INF"].contains s then some (.float (-1 / 0))
  else none

/-- The value of a plain text; a date is one only where `dates` says so. -/
def plainValue (dates : Bool) (s : String) : Value :=
  match word? s with
  | some v => v
  | none =>
    match s.toList with
    | [] => .null
    | c :: cs =>
      if c = '.' then
        match groupedDecimal? (c :: cs) with
        | some x => .float x
        | none => .text s
      else if c = '+' ∨ c = '-' ∨ c.isDigit then
        if dates ∧ isTimestamp s then .date
        else
          let plain := (c :: cs).filter (· != '_')
          match integer? plain with
          | some n => .int n
          | none =>
            match decimal? plain with
            | some x => .float x
            | none =>
              match markedInteger? plain with
              | some n => .int n
              | none => .text s
      else .text s

def floatOfInt (n : Int) : Float :=
  if n < 0 then -(Float.ofNat n.natAbs) else Float.ofNat n.natAbs

/-- The bytes of a binary scalar as text. -/
def binaryText (s : String) : Except String String :=
  match Text.bytesOfBase64? s with
  | some bytes => .ok (Text.ofBytes bytes)
  | none => .error "!!binary value contains invalid base64 data"

/-- The value of a scalar with this tag, or why it has none. Only the core types are converted; with any
other tag a scalar is text. -/
def scalarValue (tag text : String) : Except String Value :=
  if tag = "!!str" then .ok (.text text)
  else if tag = "!!binary" then .text <$> binaryText text
  else if tag = "" then .ok (plainValue true text)
  else if ["!!bool", "!!int", "!!float", "!!null", "!!timestamp"].contains tag then
    match plainValue (tag = "!!timestamp") text with
    | .int n =>
      if tag = "!!int" then .ok (.int n)
      else if tag = "!!float" ∧ n < Nat.pow 2 63 then .ok (.float (floatOfInt n))
      else .error ("cannot decode !!int `" ++ text ++ "` as a " ++ tag)
    | value =>
      if value.tag = tag then .ok value
      else .error ("cannot decode " ++ value.tag ++ " `" ++ text ++ "` as a " ++ tag)
  else .ok (.text text)

end WatchTrial.Yaml
