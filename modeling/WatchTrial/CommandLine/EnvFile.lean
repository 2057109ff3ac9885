import Std.Data.HashMap
import WatchTrial.Storage.Files
import WatchTrial.Text.Blank
import WatchTrial.Text.Quoted
import WatchTrial.Text.Utf8
/-!
# Files of variables

A file of variables has a name and a value on each line, with an equals sign or a colon between them. A
value may stand between quotes; between double quotes some escapes are resolved. References to variables
that stand before in the file are replaced, except between single quotes.
-/
namespace WatchTrial.CommandLine.EnvFile

/-- Whether a character is a blank that does not end a line. -/
def isGap (c : Char) : Bool :=
  c == '\t' || c == '\x0b' || c == '\x0c' || c == '\r' || c == ' ' || c == '\u0085' || c == '\u00a0'

/-- Whether the character of a byte may stand in a name, apart from the underscore. -/
def isNameByte (n : Nat) : Bool :=
  let c := Char.ofNat n
  c.isAlphanum || c == '.' || n == 0xaa || n == 0xb2 || n == 0xb3 || n == 0xb5 || n == 0xb9 || n == 0xba ||
    (0xbc ≤ n && n ≤ 0xbe) || (0xc0 ≤ n && n != 0xd7 && n != 0xf7)

/-- The first byte of a character that may not stand in a name. Blanks may. -/
def badByte? (c : Char) : Option Nat :=
  (c.toString.toUTF8.toList.map UInt8.toNat).find? fun n =>
    ! (isGap (Char.ofNat n) || n == '_'.toNat || isNameByte n)

/-- The start of the next line that says something. The first argument bounds the number of comments. -/
def statement? : (fuel : Nat) → List Char → Option (List Char)
  | 0, _ => none
  | fuel + 1, cs =>
    match cs.dropWhile Text.isBlank with
    | [] => none
    | '#' :: rest => statement? fuel (rest.dropWhile (· != '\n'))
    | cs => some cs

/-- A statement without the word `export` before it. -/
def withoutExport (cs : List Char) : List Char :=
  match "export".toList.isPrefixOf cs, cs.drop 6 with
  | true, c :: rest => if isGap c then (c :: rest).dropWhile isGap else cs
  | _, _ => cs

/-- How far the name at the start of a statement goes: up to its separator, to a byte that may not stand
in it, or to the end. -/
inductive NameEnd where
  | separator (name rest : List Char)
  | bad (byte : Nat)
  | none

/-- Looks for the end of the name. -/
def nameEnd : (before : List Char) → List Char → NameEnd
  | _, [] => .none
  | before, c :: rest =>
    if c = '=' ∨ c = ':' then .separator before.reverse rest
    else
      match badByte? c with
      | some n => .bad n
      | .none => nameEnd (c :: before) rest

/-- Reads the name at the start of a statement, and gives what follows its separator. -/
def readName (cs : List Char) : Except String (String × List Char) :=
  let cs := withoutExport cs
  match nameEnd [] cs with
  | .bad n =>
    .error ("unexpected character " ++ Text.quote (String.singleton (Char.ofNat n)) ++
      " in variable name near " ++ Text.quote (String.ofList cs))
  | .separator name rest =>
    .ok (String.ofList (Text.dropEndWhile Text.isBlank name), rest.dropWhile isGap)
  | .none =>
    if cs.isEmpty then .error "zero length string" else .ok ("", cs.dropWhile isGap)

/-- Whether a character may stand in the name of a reference. -/
def isReferenceChar (c : Char) : Bool := ('A' ≤ c && c ≤ 'Z') || ('0' ≤ c && c ≤ '9') || c == '_'

/-- Reads a reference after its dollar sign: the name, and how many characters it takes. -/
def reference (cs : List Char) : List Char × Nat :=
  let (paren, cs) := match cs with
    | '(' :: rest => (1, rest)
    | cs => (0, cs)
  let (brace, cs) := match cs with
    | '{' :: rest => (1, rest)
    | cs => (0, cs)
  let name := cs.takeWhile isReferenceChar
  let close := match cs.drop name.length with
    | '}' :: _ => 1
    | _ => 0
  (name, paren + brace + name.length + close)

/-- Replaces references; one after a backslash stays, without the backslash. The first argument counts
characters that are used up. -/
def expand (value : String → String) : (skip : Nat) → List Char → List Char
  | _, [] => []
  | skip + 1, _ :: rest => expand value skip rest
  | 0, c :: rest =>
    match c, rest with
    | '\\', '$' :: more =>
      let width := (reference more).2
      '$' :: more.take width ++ expand value (width + 1) rest
    | '$', _ =>
      let (name, width) := reference rest
      (if name.isEmpty then '$' :: rest.take width else (value (String.ofList name)).toList) ++
        expand value width rest
    | c, _ => c :: expand value 0 rest

/-- Resolves the escapes of line feeds and carriage returns. -/
def resolveLineEnds : List Char → List Char
  | '\\' :: 'n' :: rest => '\n' :: resolveLineEnds rest
  | '\\' :: 'r' :: rest => '\r' :: resolveLineEnds rest
  | '\\' :: '\n' :: rest => '\\' :: '\n' :: resolveLineEnds rest
  | '\\' :: c :: rest => '\\' :: c :: resolveLineEnds rest
  | c :: rest => c :: resolveLineEnds rest
  | [] => []

/-- Drops a backslash before every character but a dollar sign. -/
def dropBackslashes : List Char → List Char
  | '\\' :: '$' :: rest => '\\' :: '$' :: dropBackslashes rest
  | '\\' :: c :: rest => c :: dropBackslashes rest
  | c :: rest => c :: dropBackslashes rest
  | [] => []

/-- What stands before the last comment sign that a blank precedes, if there is one. The line and the
answer go from the end to the start. -/
def beforeComment? : List Char → Option (List Char)
  | '#' :: c :: rest => if isGap c then some (c :: rest) else beforeComment? (c :: rest)
  | _ :: rest => beforeComment? rest
  | [] => none

/-- A line without the comment at its end. -/
def withoutComment (line : List Char) : List Char :=
  ((beforeComment? line.reverse).map List.reverse).getD line

/-- The text up to the quote that ends it, and what follows; a quote after a backslash does not. -/
def cutQuote? (quote : Char) : (before : Char) → List Char → Option (List Char × List Char)
  | _, [] => none
  | before, c :: rest =>
    if c = quote ∧ before ≠ '\\' then some ([], rest)
    else (cutQuote? quote c rest).map fun (inside, rest) => (c :: inside, rest)

def readValue (value : String → String) (cs : List Char) : Except String (String × List Char) :=
  match cs with
  | [] => .ok ("", [])
  | q :: rest =>
    if q = '"' ∨ q = '\'' then
      match cutQuote? q q rest with
      | some (inside, rest) =>
        let inside := Text.dropEndWhile (· == q) (inside.dropWhile (· == q))
        .ok (String.ofList (if q = '"' then expand value 0 (dropBackslashes (resolveLineEnds inside)) else inside),
          rest)
      | none => .error ("unterminated quoted value " ++ String.ofList (cs.takeWhile (· != '\n')))
    else
      let isEnd := fun (c : Char) => c == '\n' || c == '\r'
      let line := withoutComment (cs.takeWhile (! isEnd ·))
      let trimmed := Text.dropEndWhile isGap (line.dropWhile isGap)
      .ok (String.ofList (expand value 0 trimmed), cs.dropWhile (! isEnd ·))

abbrev Vars := Std.HashMap String String

/-- Reads statements, with the variables read so far. -/
def readAll : (fuel : Nat) → Vars → List Char → Except String Vars
  | 0, vars, _ => .ok vars
  | fuel + 1, vars, cs =>
    match statement? (fuel + 1) cs with
    | none => .ok vars
    | some cs => do
      let (name, rest) ← readName cs
      let (value, rest) ← readValue (fun name => vars.getD name "") rest
      readAll fuel (vars.insert name value) rest

/-- Lines that end with a line feed alone. -/
def plainLines : List Char → List Char
  | '\r' :: '\n' :: rest => '\n' :: plainLines rest
  | c :: rest => c :: plainLines rest
  | [] => []

def read (text : String) : Except String Vars :=
  let cs := plainLines text.toList
  readAll (cs.length + 1) ∅ cs

/-- A value as a variable can hold it: one with a NUL character counts as none. -/
def holdable (value : String) : String := if value.contains '\x00' then "" else value

/-- The variables in a file, and what is wrong with the file. A missing file has none. -/
def load (files : Files) (path : String) : Vars × Option String :=
  match files.find path with
  | .error .missing => (∅, none)
  | _ =>
    match files.read path with
    | .error why => (∅, some why)
    | .ok content =>
      match read (Text.ofBytes content.toList) with
      | .error why => (∅, some why)
      | .ok found => (found, none)

/-- The value of a variable: of one that is set, or else of one in a file. What is not there is empty. -/
def value (vars : List (String × String)) (found : Vars) (name : String) : String :=
  (vars.lookup name).getD (holdable (found.getD name ""))

end WatchTrial.CommandLine.EnvFile
