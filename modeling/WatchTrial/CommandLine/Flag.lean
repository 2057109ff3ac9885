import WatchTrial.Text.Quoted
/-!
# Flags

Flags and other words may be mixed. A flag is given by its long name after two hyphens or by its letter
after one; letters may be put together, and the value of the last one may follow it directly. A switch
takes a value only after an equals sign. Two hyphens alone end the flags.
-/
namespace WatchTrial.CommandLine

/-- A flag that changes options of type `σ`. -/
structure Flag (σ : Type) where
  name : String
  letter : Option Char := none
  /-- What kind of value it takes, in a word; a switch has none. -/
  takes : String := ""
  usage : String
  /-- The default value as it is shown, if it is. -/
  shown : Option String := none
  /-- Changes the options, or says what is wrong with a value. -/
  set : String → σ → Except String σ

inductive FlagFault where
  | malformed (word : String)
  | unknown (name : String)
  | unknownLetter (letter : Char) (letters : String)
  | needsValue (name : String)
  | letterNeedsValue (letter : Char) (letters : String)
  | badValue (value flag why : String)
deriving Repr, DecidableEq, Inhabited

def quoteLetter (c : Char) : String :=
  if c = '\'' then "'\\''"
  else if c = '"' then "'\"'"
  else "'" ++ String.ofList (Text.quoteChar c) ++ "'"

def FlagFault.message : FlagFault → String
  | malformed word => "bad flag syntax: " ++ word
  | unknown name => "unknown flag: --" ++ name
  | unknownLetter c letters => "unknown shorthand flag: " ++ quoteLetter c ++ " in -" ++ letters
  | needsValue name => "flag needs an argument: --" ++ name
  | letterNeedsValue c letters => "flag needs an argument: " ++ quoteLetter c ++ " in -" ++ letters
  | badValue value flag why =>
    "invalid argument " ++ Text.quote value ++ " for " ++ Text.quote flag ++ " flag: " ++ why

structure Reading (σ : Type) where
  options : σ
  given : List String := []
  /-- The words that are no flags, the latest first. -/
  words : List String := []
  /-- A flag whose value comes next, with what to say if none comes. -/
  awaits : Option (Flag σ × FlagFault) := none
  /-- Whether the flags have ended. -/
  ended : Bool := false
  /-- What is wrong, if anything is. Nothing is read after that. -/
  fault : Option FlagFault := none

variable {σ : Type}

namespace Flag

def isSwitch (f : Flag σ) : Bool := f.takes == ""

/-- How a flag is called when its value is wrong. -/
def title (f : Flag σ) : String :=
  match f.letter with
  | some c => "-" ++ String.singleton c ++ ", --" ++ f.name
  | none => "--" ++ f.name

def give (f : Flag σ) (value : String) (r : Reading σ) : Reading σ :=
  match f.set value r.options with
  | .ok options => { r with options, given := f.name :: r.given, awaits := none }
  | .error why => { r with awaits := none, fault := some (.badValue value f.title why) }

/-- Reads a flag given by its long name, without the hyphens. -/
def readLong (flags : List (Flag σ)) (r : Reading σ) (word : List Char) : Reading σ :=
  let name := String.ofList (word.takeWhile (· != '='))
  match flags.find? (·.name == name) with
  | none => { r with fault := some (.unknown name) }
  | some f =>
    match word.dropWhile (· != '=') with
    | _ :: value => f.give (String.ofList value) r
    | [] => if f.isSwitch then f.give "true" r else { r with awaits := some (f, .needsValue name) }

/-- The letter that is named when one is unknown: of a character of several bytes, only part is seen. -/
def seenLetter (c : Char) : Char := if c.toNat < 0x80 then c else 'Ã'

/-- Reads flags given by their letters, without the hyphen. -/
def readLetters (flags : List (Flag σ)) (r : Reading σ) : List Char → Reading σ
  | [] => r
  | c :: rest =>
    if "test.".toList.isPrefixOf (c :: rest) then r
    else
      match flags.find? (·.letter == some c) with
      | none => { r with fault := some (.unknownLetter (seenLetter c) (String.ofList (c :: rest))) }
      | some f =>
        match rest with
        | '=' :: v :: value => f.give (String.ofList (v :: value)) r
        | _ =>
          if f.isSwitch then
            let r := f.give "true" r
            if r.fault.isSome then r else readLetters flags r rest
          else if rest.isEmpty then
            { r with awaits := some (f, .letterNeedsValue c (String.singleton c)) }
          else f.give (String.ofList rest) r

def readWord (flags : List (Flag σ)) (r : Reading σ) (word : String) : Reading σ :=
  if r.fault.isSome then r
  else
    match r.awaits with
    | some (f, _) => f.give word r
    | none =>
      if r.ended then { r with words := word :: r.words }
      else
        match word.toList with
        | ['-', '-'] => { r with ended := true }
        | '-' :: '-' :: c :: rest =>
          if c = '-' ∨ c = '=' then { r with fault := some (.malformed word) }
          else readLong flags r (c :: rest)
        | '-' :: c :: rest => readLetters flags r (c :: rest)
        | _ => { r with words := word :: r.words }

/-- Reads a command line, with what earlier lines have set. -/
def readOn (flags : List (Flag σ)) (before : Reading σ) (line : List String) : Reading σ :=
  let r := line.foldl (readWord flags) { options := before.options, given := before.given }
  match r.fault, r.awaits with
  | none, some (_, fault) => { r with fault := some fault }
  | _, _ => { r with words := r.words.reverse }

def readAll (flags : List (Flag σ)) (options : σ) (line : List String) : Reading σ :=
  readOn flags { options } line

/-- Flags in ascending order with one more. -/
def insert (f : Flag σ) : List (Flag σ) → List (Flag σ)
  | [] => [f]
  | g :: rest => if f.name ≤ g.name then f :: g :: rest else g :: insert f rest

def heading (f : Flag σ) : String :=
  (match f.letter with
    | some c => "  -" ++ String.singleton c ++ ", --"
    | none => "      --") ++ f.name ++ (if f.isSwitch then "" else " " ++ f.takes)

def remark (f : Flag σ) : String :=
  f.usage ++
    match f.shown with
    | some value => " (default " ++ value ++ ")"
    | none => ""

/-- A text of several lines, all but the first moved to the right. -/
def hang (width : Nat) (text : String) : String :=
  ("\n" ++ String.ofList (List.replicate width ' ')).intercalate
    ((text.toList.splitOn '\n').map String.ofList)

/-- The help text for flags, each on a line of its own. -/
def help (flags : List (Flag σ)) : String :=
  let width := (flags.map fun f => f.heading.length).foldl max 0 + 3
  "\n".intercalate <| flags.map fun f =>
    f.heading ++ String.ofList (List.replicate (width - f.heading.length) ' ') ++ hang width f.remark

end Flag
end WatchTrial.CommandLine
