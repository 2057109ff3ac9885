import WatchTrial.Text.Blank
import WatchTrial.Text.Decimal
import WatchTrial.Text.Lines
import WatchTrial.Text.Quoted
/-!
# Display sizes

A device answers the question for its display size with a physical and perhaps an override size. The
last non-empty override wins over the last physical size. Both numbers have to be positive.
-/
namespace WatchTrial

structure DisplaySize where
  width : Int64
  height : Int64
deriving Repr, DecidableEq, Inhabited

namespace DisplaySize

inductive ReadFault where
  | missing (answer : String)
  | malformed (size : String)
  | badWidth (text : String) (why : Text.NumberFault)
  | badHeight (text : String) (why : Text.NumberFault)
  | notPositive (size : DisplaySize)
deriving Repr, DecidableEq

/-- The words for a number that is not a signed decimal of 64 bits. -/
def numberMessage (text : String) (why : Text.NumberFault) : String :=
  "strconv.Atoi: parsing " ++ Text.quote text ++ ": " ++ why.message

/-- The words for an answer without a display size. -/
def ReadFault.message : ReadFault → String
  | missing answer => "no display size in " ++ Text.quote answer
  | malformed size => "malformed display size " ++ Text.quote size
  | badWidth text why => "malformed display width " ++ Text.quote text ++ ": " ++ numberMessage text why
  | badHeight text why => "malformed display height " ++ Text.quote text ++ ": " ++ numberMessage text why
  | notPositive size =>
    "invalid display size " ++ Text.showInt64 size.width ++ "x" ++ Text.showInt64 size.height

/-- The sizes an answer names: the last physical and the last override size, empty when absent. -/
structure Named where
  physical : List Char
  override : List Char
deriving Repr, DecidableEq

def Named.step (named : Named) (raw : List Char) : Named :=
  let line := Text.trimChars raw
  match Text.afterStart "Physical size:".toList line with
  | some size => { named with physical := Text.trimChars size }
  | none =>
    match Text.afterStart "Override size:".toList line with
    | some size => { named with override := Text.trimChars size }
    | none => named

/-- The size that counts. -/
def Named.effective (named : Named) : List Char :=
  if named.override.isEmpty then named.physical else named.override

def named (answer : List Char) : Named :=
  (Text.lines answer).foldl Named.step ⟨[], []⟩

/-- Reads `WxH`. -/
def readPair (size : List Char) : Except ReadFault DisplaySize :=
  match Text.cut 'x' size with
  | (_, none) => .error (.malformed (String.ofList size))
  | (w, some h) =>
    match Text.readInt64 w with
    | .error why => .error (.badWidth (String.ofList w) why)
    | .ok width =>
      match Text.readInt64 h with
      | .error why => .error (.badHeight (String.ofList h) why)
      | .ok height =>
        if width ≤ 0 ∨ height ≤ 0 then .error (.notPositive ⟨width, height⟩) else .ok ⟨width, height⟩

/-- Reads the answer of a device to the question for its display size. -/
def read (answer : String) : Except ReadFault DisplaySize :=
  match (named answer.toList).effective with
  | [] => .error (.missing (Text.trim answer))
  | size => readPair size

end DisplaySize
end WatchTrial
