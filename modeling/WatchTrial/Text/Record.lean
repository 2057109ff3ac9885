import WatchTrial.Text.Blank
/-!
# Comma-separated records

Records end at line feeds and fields at commas. A field that starts with a double quote runs to its
closing quote and may hold both; a quote inside it is written twice. Reading is one pass over the
characters. A lenient reading takes a misplaced quote as it stands, a strict one refuses it.
-/
namespace WatchTrial.Text.Record

inductive Trouble where
  /-- A quote inside a field that is not quoted. -/
  | bareQuote
  /-- A quoted field that goes on after its closing quote, or never ends. -/
  | strayQuote
deriving Repr, DecidableEq

/-- A refusal: the line where the record starts, and where in which line it was refused. -/
structure Refusal where
  startLine : Nat
  line : Nat
  column : Nat
  trouble : Trouble
deriving Repr, DecidableEq

def Refusal.message (r : Refusal) : String :=
  let place := "parse error on line " ++ toString r.line ++ ", column " ++ toString r.column ++ ": "
  let what := match r.trouble with
    | .bareQuote => "bare \" in non-quoted-field"
    | .strayQuote => "extraneous or missing \" in quoted-field"
  if r.startLine = r.line then place ++ what
  else "record on line " ++ toString r.startLine ++ "; " ++ place ++ what

/-- Where in a record the reading is. -/
inductive Phase where
  /-- Before the first field of a record. -/
  | recordStart
  /-- After a comma. -/
  | fieldStart
  /-- In a field without quotes. -/
  | plain
  | quoted
  /-- After a quote in a quoted field. -/
  | closing
deriving Repr, DecidableEq

/-- A reading in progress. Lists that grow are kept with their last element first. -/
structure Reading where
  phase : Phase := .recordStart
  field : List Char := []
  fields : List (List Char) := []
  /-- The records read so far. -/
  records : List (List (List Char)) := []
  /-- The line the record being read starts in. -/
  startLine : Nat := 1
  /-- The position of the next character, in bytes. -/
  line : Nat := 1
  column : Nat := 1
  /-- Whether the character before was a line feed. -/
  freshLine : Bool := false
  refusal : Option Refusal := none
deriving Repr, DecidableEq

namespace Reading

def refuse (r : Reading) (column : Nat) (trouble : Trouble) : Reading :=
  { r with refusal := some ⟨r.startLine, r.line, column, trouble⟩ }

def extend (r : Reading) (phase : Phase) (c : Char) : Reading :=
  { r with phase, field := c :: r.field }

/-- Ends the field. -/
def endField (r : Reading) : Reading :=
  { r with phase := .fieldStart, field := [], fields := r.field.reverse :: r.fields }

/-- Ends the field and the record. -/
def endRecord (r : Reading) : Reading :=
  { r with
    phase := .recordStart
    field := []
    fields := []
    records := (r.field.reverse :: r.fields).reverse :: r.records }

def plainChar (lenient : Bool) (r : Reading) (c : Char) : Reading :=
  if c = ',' then r.endField
  else if c = '\n' then r.endRecord
  else if c = '"' ∧ ¬ lenient then r.refuse r.column .bareQuote
  else r.extend .plain c

/-- Reads the first character of a field. -/
def firstChar (lenient : Bool) (r : Reading) (c : Char) : Reading :=
  if c = '"' then { r with phase := .quoted } else r.plainChar lenient c

def char (lenient : Bool) (r : Reading) (c : Char) : Reading :=
  match r.phase with
  | .recordStart => if c = '\n' then r else { r with startLine := r.line }.firstChar lenient c
  | .fieldStart => r.firstChar lenient c
  | .plain => r.plainChar lenient c
  | .quoted => if c = '"' then { r with phase := .closing } else r.extend .quoted c
  | .closing =>
    if c = '"' then r.extend .quoted '"'
    else if c = ',' then r.endField
    else if c = '\n' then r.endRecord
    else if lenient then (r.extend .quoted '"').extend .quoted c
    else r.refuse (r.column - 1) .strayQuote

def step (lenient : Bool) (r : Reading) (c : Char) : Reading :=
  if r.refusal.isSome then r
  else
    let r := if r.freshLine then { r with line := r.line + 1, column := 1, freshLine := false } else r
    let next := r.char lenient c
    if next.refusal.isSome then next
    else { next with column := r.column + c.utf8Size, freshLine := c == '\n' }

/-- Ends the reading at the end of the text. -/
def finish (lenient : Bool) (r : Reading) : Reading :=
  if r.refusal.isSome then r
  else
    match r.phase with
    | .recordStart => r
    | .fieldStart | .plain | .closing => r.endRecord
    | .quoted => if lenient then r.endRecord else r.refuse r.column .strayQuote

end Reading

/-- A text whose lines end with a line feed alone, and without a carriage return at its very end. -/
def plainLineEnds : List Char → List Char
  | [] => []
  | ['\r'] => []
  | '\r' :: '\n' :: rest => '\n' :: plainLineEnds rest
  | c :: rest => c :: plainLineEnds rest

/-- Reads a whole text. -/
def readAll (lenient : Bool) (cs : List Char) : Reading :=
  ((plainLineEnds cs).foldl (Reading.step lenient) {}).finish lenient

/-- The records of a text, read leniently: every text has some. -/
def lenientRecords (text : String) : List (List String) :=
  (readAll true text.toList).records.reverse.map (·.map String.ofList)

/-- What a strict reading of the first record gives. -/
inductive First where
  | record (fields : List String)
  | refused (why : Refusal)
  | none
deriving Repr, DecidableEq

/-- The first record of a text, read strictly. -/
def strictFirst (text : String) : First :=
  let r := readAll false text.toList
  match r.records.reverse with
  | fields :: _ => .record (fields.map String.ofList)
  | [] =>
    match r.refusal with
    | some why => .refused why
    | .none => .none

/-- Whether a field has to be quoted when it is written. -/
def needsQuotes (field : String) : Bool :=
  field == "\\." || field.toList.any (fun c => c == ',' || c == '"' || c == '\r' || c == '\n') ||
    (field.toList.head?.map isBlank).getD false

def quotedField (s : String) : String :=
  "\"" ++ String.ofList (s.toList.flatMap fun c => if c = '"' then ['"', '"'] else [c]) ++ "\""

def field (s : String) : String :=
  if needsQuotes s then quotedField s else s

end WatchTrial.Text.Record
