import WatchTrial.Text.Utf8
/-!
# Variables in a text

A dollar sign with a name, or with a name in braces, stands for the value of a variable; one that is not
set is empty. A dollar sign that no name follows stays, and braces that hold no name are dropped.
-/
namespace WatchTrial.Variables

open Text (Piece)

def isSpecial (c : Char) : Bool :=
  c == '*' || c == '#' || c == '$' || c == '@' || c == '!' || c == '?' || c == '-' || ('0' ≤ c && c ≤ '9')

/-- Whether a character may stand in a name. -/
def isNameChar (c : Char) : Bool := c == '_' || c.isAlphanum

def nameOf (name : List Piece) : String := String.ofList (name.map Piece.shown)

inductive Reference where
  /-- A variable, and how many characters name it. -/
  | named (name : String) (width : Nat)
  /-- Characters that are dropped. -/
  | dropped (width : Nat)
  /-- A brace that no other one closes; it is dropped. -/
  | unclosed
  /-- Nothing that concerns the dollar sign. -/
  | bare
deriving Repr, DecidableEq

/-- Reads what follows a dollar sign in a text that goes on; `closing` tells whether a closing brace may come. -/
def reference (closing : Bool) (ps : List Piece) : Reference :=
  match ps with
  | [] => .bare
  | p :: rest =>
    if p = .char '{' then
      if ! closing then .unclosed
      else
        match rest with
        | s :: .char '}' :: _ => if isSpecial s.shown then .named (nameOf [s]) 3 else braced rest
        | _ => braced rest
    else if isSpecial p.shown then .named (nameOf [p]) 1
    else
      let name := ps.takeWhile (isNameChar ·.shown)
      if name.isEmpty then .bare else .named (nameOf name) name.length
where
  /-- Reads a name up to the closing brace. -/
  braced (rest : List Piece) : Reference :=
    match rest.dropWhile (· != .char '}') with
    | [] => .unclosed
    | _ =>
      let name := rest.takeWhile (· != .char '}')
      if name.isEmpty then .dropped 2 else .named (nameOf name) (name.length + 2)

/-- Replaces the references of a text, after the text in `seen`, the latest piece first; the count is of
pieces that are used up. Once a brace was not closed, none of those that follow is. -/
def expandFrom (value : String → String) :
    (closing : Bool) → (skip : Nat) → (seen : List Piece) → List Piece → List Piece
  | _, _, seen, [] => seen.reverse
  | closing, skip + 1, seen, _ :: rest => expandFrom value closing skip seen rest
  | closing, 0, seen, p :: rest =>
    if p = .char '$' ∧ ¬ rest.isEmpty then
      match reference closing rest with
      | .named name width => expandFrom value closing width (((value name).toList.map .char).reverse ++ seen) rest
      | .dropped width => expandFrom value closing width seen rest
      | .unclosed => expandFrom value false 1 seen rest
      | .bare => expandFrom value closing 0 (p :: seen) rest
    else expandFrom value closing 0 (p :: seen) rest

def expand (value : String → String) (text : List Piece) : List Piece :=
  expandFrom value true 0 [] text

end WatchTrial.Variables
