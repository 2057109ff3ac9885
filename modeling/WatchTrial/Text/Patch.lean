import WatchTrial.Text.Edit
/-!
# Patches

A patch shows an edit script in hunks: runs of changes with some unchanged lines around them. Each
hunk is headed by the ranges of lines it covers on both sides.
-/
namespace WatchTrial.Text.Patch

/-- A maximal run of unchanged or of changed lines, with the lines of both sides before it. -/
structure Run where
  left : Nat
  right : Nat
  unchanged : Bool
  removed : List String
  added : List String
deriving Repr, DecidableEq

namespace Run

/-- The unchanged lines from position `n` of a run on. -/
def drop (n : Nat) (run : Run) : Run :=
  { run with
    left := run.left + min n run.removed.length
    right := run.right + min n run.added.length
    removed := run.removed.drop n
    added := run.added.drop n }

/-- The first `n` unchanged lines of a run. -/
def take (n : Nat) (run : Run) : Run :=
  { run with removed := run.removed.take n, added := run.added.take n }

/-- The last `n` unchanged lines of a run. -/
def takeLast (n : Nat) (run : Run) : Run :=
  run.drop (run.removed.length - n)

/-- The lines of a run, each with its mark. -/
def marked (run : Run) : List String :=
  if run.unchanged then run.removed.map (" " ++ ·)
  else run.removed.map ("-" ++ ·) ++ run.added.map ("+" ++ ·)

end Run

def attach (edit : Edit String) (runs : List Run) : List Run :=
  match edit, runs with
  | .keep a, ⟨l, r, true, removed, added⟩ :: rest => ⟨l, r, true, a :: removed, a :: added⟩ :: rest
  | .keep a, rest => ⟨0, 0, true, [a], [a]⟩ :: rest
  | .remove a, ⟨l, r, false, removed, added⟩ :: rest => ⟨l, r, false, a :: removed, added⟩ :: rest
  | .remove a, rest => ⟨0, 0, false, [a], []⟩ :: rest
  | .add a, ⟨l, r, false, removed, added⟩ :: rest => ⟨l, r, false, removed, a :: added⟩ :: rest
  | .add a, rest => ⟨0, 0, false, [], [a]⟩ :: rest

/-- Gives each run its position on both sides. -/
def locate : (left right : Nat) → List Run → List Run
  | _, _, [] => []
  | left, right, run :: rest =>
    { run with left, right } ::
      locate (left + run.removed.length) (right + run.added.length) rest

def runs (edits : List (Edit String)) : List Run :=
  locate 0 0 (edits.foldr attach [])

/-- Shortens the first run to its last `n` lines when it is unchanged. -/
def trimFirst (n : Nat) : List Run → List Run
  | [] => []
  | run :: rest => (if run.unchanged then run.takeLast n else run) :: rest

/-- Shortens the last run to its first `n` lines when it is unchanged. -/
def trimLast (n : Nat) : List Run → List Run
  | [] => []
  | [run] => [if run.unchanged then run.take n else run]
  | run :: rest => run :: trimLast n rest

def worthShowing : List Run → Bool
  | [] => false
  | [run] => ! run.unchanged
  | _ => true

/-- Cuts runs into hunks inside unchanged runs of more than `2 n` lines. -/
def hunks (n : Nat) : (current : List Run) → List Run → List (List Run)
  | current, [] => if worthShowing current then [current] else []
  | current, run :: rest =>
    if run.unchanged && decide (n + n < run.removed.length) then
      (current ++ [run.take n]) :: hunks n [run.takeLast n] rest
    else hunks n (current ++ [run]) rest

/-- A range of lines: its first line and, unless it has just one, its length. -/
def showRange (start length : Nat) : String :=
  match length with
  | 1 => toString (start + 1)
  | 0 => toString start ++ ",0"
  | _ => toString (start + 1) ++ "," ++ toString length

def showHunk (hunk : List Run) : String :=
  match hunk.head? with
  | none => ""
  | some first =>
    let removed := (hunk.map (·.removed.length)).foldl (· + ·) 0
    let added := (hunk.map (·.added.length)).foldl (· + ·) 0
    "@@ -" ++ showRange first.left removed ++ " +" ++ showRange first.right added ++ " @@\n" ++
      String.join (hunk.flatMap Run.marked)

/-- The patch from lines `xs` named `before` to lines `ys` named `after`, with `n` unchanged lines
around each change; lines end with their own line feed. It is empty when nothing changes. -/
def render (n : Nat) (before after : String) (xs ys : List String) : String :=
  match hunks n [] (trimLast n (trimFirst n (runs (Edit.script xs ys)))) with
  | [] => ""
  | found => "--- " ++ before ++ "\n+++ " ++ after ++ "\n" ++ String.join (found.map showHunk)

end WatchTrial.Text.Patch
