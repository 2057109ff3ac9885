import WatchTrial.Rehearsal.Tool.Options
import WatchTrial.Rehearsal.Tool.Printf
/-!
# Rows of numbers

The tool counts from a first to a last number by a step, in as many places as the first number and the step
have.
-/
namespace WatchTrial.Rehearsal

/-- A number given to the tool: its value, the places of its fraction, and how wide it was written. -/
structure SequenceNumber where
  value : Fraction
  places : Nat := 0
  width : Nat := 1
deriving Inhabited

/-- Reads a number that takes up all of an argument. One with an exponent or in hexadecimal is as wide as its
plain form. -/
def SequenceNumber.read (arg : Bytes) : Except Bytes SequenceNumber :=
  match Fraction.read? arg with
  | some (value, places, []) =>
    let written := arg.dropWhile fun c => isBlankByte c || c == '+'
    let plain : Directive := { precision := some places }
    let scaled := written.any fun c => "eExX".toList.contains c
    .ok { value, places, width := if scaled then (plain.fraction 'f' value).length else written.length }
  | _ => .error (bytesOf "invalid floating point argument: " ++ inQuotes arg)

/-- A fraction as a whole number of units of a place. -/
def Fraction.units (places : Nat) (x : Fraction) : Int :=
  let n : Int := x.num * Nat.pow 10 places / x.den
  if x.negative then -n else n

/-- A whole number of units of a place as a fraction. -/
def Fraction.ofUnits (places : Nat) (n : Int) : Fraction :=
  { negative := n < 0, num := n.natAbs, den := Nat.pow 10 places }

/-- How many numbers there are from a first to a last by a step. -/
def countSteps (first step last : Int) : Nat :=
  if 0 < step then if last < first then 0 else ((last - first) / step).toNat + 1
  else if step < 0 then if first < last then 0 else ((first - last) / -step).toNat + 1
  else 0

/-- How the numbers are written. -/
structure SequenceStyle where
  separator : Bytes := ['\n']
  equalWidth : Bool := false
  format : Option Bytes := none
deriving Inhabited

/-- The numbers from a first to a last by a step. -/
def sequence (style : SequenceStyle) (first step last : SequenceNumber) : Bytes :=
  let places := max first.places step.places
  let fine := max places last.places
  let unit := fun (x : SequenceNumber) => x.value.units fine
  let wide (x : SequenceNumber) : Nat :=
    x.width - x.places + places + (if x.places = 0 ∧ places ≠ 0 then 1 else 0) -
    (if x.places ≠ 0 ∧ places = 0 then 1 else 0)
  let width := if style.equalWidth then max (wide first) (wide last) else 0
  let show_ (n : Int) : Bytes :=
    let x := Fraction.ofUnits fine n
    match style.format with
    | none =>
      let d : Directive := { zero := true, width, precision := some places }
      d.fraction 'f' x
    | some format =>
      let before := format.takeWhile (· != '%')
      let (d, after, _) := Printing.readDirective {} .tool (format.drop (before.length + 1))
      before ++ d.fraction (after.headD 'g') x ++ after.drop 1
  let count := countSteps (unit first) (unit step) (unit last)
  if count = 0 then []
  else
    style.separator.intercalate ((List.range count).map fun (i : Nat) => show_ (unit first + i * unit step)) ++ ['\n']

def SequenceStyle.ofOptions (p : Parsed) : SequenceStyle :=
  { separator := (p.value? 's').getD ['\n'], equalWidth := p.has 'w', format := p.value? 'f' }

/-- Whether an argument is no option but a number or another operand. -/
def isSequenceOperand : Bytes → Bool
  | '-' :: c :: _ => c.isDigit || c == '.'
  | _ => true

def SequenceNumber.one : SequenceNumber := { value := { num := 1 } }

def sequenceOf (style : SequenceStyle) : List Bytes → Except Bytes Bytes
  | [] => .error (bytesOf "missing operand")
  | [last] => return sequence style .one .one (← SequenceNumber.read last)
  | [first, last] => return sequence style (← SequenceNumber.read first) .one (← SequenceNumber.read last)
  | [first, step, last] => do
    let first ← SequenceNumber.read first
    let by_ ← SequenceNumber.read step
    if by_.value.num = 0 then throw (bytesOf "invalid Zero increment value: " ++ inQuotes step)
    return sequence style first by_ (← SequenceNumber.read last)
  | _ :: _ :: _ :: extra :: _ => .error (bytesOf "extra operand " ++ inQuotes extra)

/-- The tool that counts. -/
def Tool.seq : Tool := fun call =>
  let outcome := do
    let p ← Parsed.read ['w'] ['s', 'f'] isSequenceOperand {} call.args
    sequenceOf (.ofOptions p) p.operands
  match outcome with
  | .ok out => { out }
  | .error why => .misuse call why

/-- Whether an argument is a duration: a number that is not negative, and a unit. -/
def isDuration (arg : Bytes) : Bool :=
  match Fraction.read? arg with
  | some (x, _, rest) => ! x.negative && (rest.isEmpty || (rest.length == 1 && "smhd".toList.contains (rest.headD ' ')))
  | none => arg == bytesOf "infinity" || arg == bytesOf "inf"

/-- The tool that waits. How long is not seen. -/
def Tool.sleep : Tool := fun call =>
  Parsed.forCall call "" "" fun p =>
    match p.operands, p.operands.filter (! isDuration ·) with
    | [], _ => .misuse call (bytesOf "missing operand")
    | _, [] => {}
    | _, wrong =>
      { err := wrong.flatMap (fun arg =>
          call.name ++ bytesOf ": invalid time interval " ++ inQuotes arg ++ ['\n']) ++ Yield.advice call
        status := 1 }

end WatchTrial.Rehearsal
