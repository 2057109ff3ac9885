import WatchTrial.Json.Reader
/-!
# Filling a record from JSON

A text is laid over a record: the members that the record names set its parts, null leaves a part as it is,
and other members are passed over. A member that comes twice is laid over what the first one left, so the
objects of an array keep the members that the second array does not name.
-/
namespace WatchTrial.Json

abbrev Row := List (String × Json)

/-- The objects of an array, with those of earlier arrays at places that the latest one does not reach. -/
structure Rows where
  rows : List Row := []
  further : List Row := []
deriving Inhabited

/-- A place in a record that a value can fill. -/
inductive Shape (σ : Type) where
  | text (set : String → σ → σ)
  | value (set : Json → σ → σ)
  | rows (get : σ → Rows) (set : Rows → σ → σ)
  | group (fields : List (String × Shape σ))

/-- The letter that a character counts as in a name. -/
def foldLetter (c : Char) : Char :=
  if c = '\u0130' then 'i' else if c = '\u212a' then 'k' else c.toLower

/-- Whether two names are equal without regard to case. -/
def sameName (a b : String) : Bool :=
  a.toList.map foldLetter == b.toList.map foldLetter

/-- Lays an object over a row, or clears the row. -/
def fillRow (fuel : Nat) (row : Row) (cs : List Char) : Option (Row × List Char) :=
  match skipBlanks cs with
  | 'n' :: 'u' :: 'l' :: 'l' :: rest => some ([], rest)
  | '{' :: rest =>
    match skipBlanks rest with
    | '}' :: rest => some (row, rest)
    | rest => members fuel row.reverse rest
  | _ => none
where
  /-- Adds members to those in `row`, the latest first, up to the closing brace. -/
  members : (fuel : Nat) → Row → List Char → Option (Row × List Char)
    | 0, _, _ => none
    | fuel + 1, row, cs => do
      let (name, rest) ← memberName cs
      let (value, rest) ← readValue 0 (fuel + 1) rest
      match skipBlanks rest with
      | ',' :: rest => members fuel ((name, value) :: row) rest
      | '}' :: rest => some (((name, value) :: row).reverse, rest)
      | _ => none

/-- Lays the objects of an array over rows; `done` are the rows so far, the latest first. -/
def fillRows : (fuel : Nat) → (done before : List Row) → List Char → Option (Rows × List Char)
  | 0, _, _, _ => none
  | fuel + 1, done, before, cs => do
    let (row, rest) ← fillRow (fuel + 1) (before.headD []) cs
    match skipBlanks rest with
    | ',' :: rest => fillRows fuel (row :: done) (before.drop 1) rest
    | ']' :: rest => some (⟨(row :: done).reverse, before.drop 1⟩, rest)
    | _ => none

/-- Lays an array over rows. An array without anything between its brackets forgets the earlier ones. -/
def fillArray (fuel : Nat) (before : Rows) (cs : List Char) : Option (Rows × List Char) :=
  match skipBlanks cs with
  | 'n' :: 'u' :: 'l' :: 'l' :: rest => some ({}, rest)
  | '[' :: ']' :: rest => some ({}, rest)
  | '[' :: rest =>
    let kept := before.rows ++ before.further
    match skipBlanks rest with
    | ']' :: rest => some (⟨[], kept⟩, rest)
    | rest => fillRows fuel [] kept rest
  | _ => none

mutual

/-- Lays the value at the start of a text over a record. -/
def Shape.fill {σ : Type} (shape : Shape σ) : (fuel : Nat) → σ → List Char → Option (σ × List Char)
  | 0, _, _ => none
  | fuel + 1, record, cs =>
    match shape with
    | .value set => (readValue 0 (fuel + 1) cs).map fun (found, rest) => (set found record, rest)
    | .rows get set => (fillArray (fuel + 1) (get record) cs).map fun (found, rest) => (set found record, rest)
    | .text set =>
      match skipBlanks cs with
      | 'n' :: 'u' :: 'l' :: 'l' :: rest => some (record, rest)
      | '"' :: rest => (readString none [] rest).map fun (s, rest) => (set s record, rest)
      | _ => none
    | .group fields =>
      match skipBlanks cs with
      | 'n' :: 'u' :: 'l' :: 'l' :: rest => some (record, rest)
      | '{' :: rest =>
        match skipBlanks rest with
        | '}' :: rest => some (record, rest)
        | rest => Shape.fillMembers fields fuel record rest
      | _ => none

/-- Lays the members of an object over a record, up to the closing brace. -/
def Shape.fillMembers {σ : Type} (fields : List (String × Shape σ)) :
    (fuel : Nat) → σ → List Char → Option (σ × List Char)
  | 0, _, _ => none
  | fuel + 1, record, cs =>
    match memberName cs with
    | none => none
    | some (name, rest) =>
      let filled := match fields.find? (sameName ·.1 name) with
        | some (_, shape) => Shape.fill shape fuel record rest
        | none => (skipValue 0 fuel rest).map fun rest => (record, rest)
      match filled with
      | none => none
      | some (record, rest) =>
        match skipBlanks rest with
        | ',' :: rest => Shape.fillMembers fields fuel record rest
        | '}' :: rest => some (record, rest)
        | _ => none

end

/-- Lays a text that is one value over a record. -/
def Shape.read? {σ : Type} (shape : Shape σ) (record : σ) (text : String) : Option σ := do
  let cs := text.toList
  let (record, rest) ← shape.fill (cs.length + 1) record cs
  if (skipBlanks rest).isEmpty then some record else none

end WatchTrial.Json
