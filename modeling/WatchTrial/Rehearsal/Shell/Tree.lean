import WatchTrial.Rehearsal.Tool.Basic
/-!
# Shell lines as trees

A word of a shell line is a list of pieces: text, values of parameters, outputs of commands, and results of
sums. Commands are combined to pipes, lists, branches and loops.
-/
namespace WatchTrial.Rehearsal.Shell

/-- What a value does when a parameter is missing. -/
inductive Missing where
  /-- A word stands for it. -/
  | useWord
  /-- The parameter gets the word. -/
  | assign
  /-- The shell complains. -/
  | complain
  /-- A word stands for it if it is there. -/
  | invert
deriving Repr, DecidableEq, Inhabited

/-- Which end of a value is cut off. -/
inductive Cut where
  | shortStart
  | longStart
  | shortEnd
  | longEnd
deriving Repr, DecidableEq, Inhabited

inductive Channel where
  | read
  | write
  | append
  /-- It becomes the same as another one. -/
  | copy
  /-- Its content stands in the line. -/
  | here
deriving Repr, DecidableEq, Inhabited

mutual

inductive Piece where
  | text (quoted : Bool) (bytes : Bytes)
  | value (quoted : Bool) (name : Bytes)
  | length (name : Bytes)
  | fallback (quoted : Bool) (name : Bytes) (how : Missing) (emptyToo : Bool) (word : List Piece)
  | trimmed (quoted : Bool) (name : Bytes) (cut : Cut) (pattern : List Piece)
  | output (quoted : Bool) (body : Tree)
  | sum (quoted : Bool) (body : List Piece)
  | malformed

inductive Redirect where
  | mk (number : Nat) (channel : Channel) (target : List Piece)

inductive Tree where
  | nothing
  | simple (line : Nat) (assignments : List (Bytes × List Piece)) (words : List (List Piece))
      (redirects : List Redirect)
  | pipe (first second : Tree)
  | negation (body : Tree)
  | both (first second : Tree)
  | either (first second : Tree)
  | sequence (first second : Tree)
  | background (body : Tree)
  | inner (body : Tree)
  | redirected (line : Nat) (body : Tree) (redirects : List Redirect)
  | branch (condition yes no : Tree)
  | loop (until_ : Bool) (condition body : Tree)
  | each (line : Nat) (name : Bytes) (words : Option (List (List Piece))) (body : Tree)
  | choice (line : Nat) (word : List Piece) (cases : List (List (List Piece) × Tree))
  | define (name : Bytes) (body : Tree)

end

instance : Inhabited Piece := ⟨.malformed⟩

instance : Inhabited Tree := ⟨.nothing⟩

end WatchTrial.Rehearsal.Shell
