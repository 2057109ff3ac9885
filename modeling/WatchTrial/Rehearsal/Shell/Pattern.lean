import WatchTrial.Rehearsal.Tool.Basic
/-!
# Patterns of the shell

In a pattern a star stands for any bytes, a question mark for any byte, and brackets for any of some bytes.
Bytes that are quoted stand for themselves.
-/
namespace WatchTrial.Rehearsal.Shell

inductive Matcher where
  | byte (c : Char)
  | any
  | many
  /-- A byte within one of some ranges, or within none of them. -/
  | oneOf (negated : Bool) (ranges : List (Char × Char))
deriving Repr, DecidableEq, Inhabited

namespace Matcher

/-- The ranges up to the closing bracket, and what follows it. The first byte may be a bracket itself. -/
def ranges? : (fuel : Nat) → (done : List (Char × Char)) → Bytes → Option (List (Char × Char) × Bytes)
  | 0, _, _ => none
  | _ + 1, _, [] => none
  | fuel + 1, done, c :: rest =>
    if c = ']' ∧ done ≠ [] then some (done.reverse, rest)
    else
      match rest with
      | '-' :: d :: more => if d = ']' then ranges? fuel ((c, c) :: done) rest else ranges? fuel ((c, d) :: done) more
      | _ => ranges? fuel ((c, c) :: done) rest

/-- The pattern of bytes, of which some are quoted. -/
def ofBytes : (fuel : Nat) → List (Char × Bool) → List Matcher
  | 0, _ => []
  | _ + 1, [] => []
  | fuel + 1, (c, quoted) :: rest =>
    if quoted then byte c :: ofBytes fuel rest
    else
      match c with
      | '*' => many :: ofBytes fuel rest
      | '?' => any :: ofBytes fuel rest
      | '[' =>
        let bytes := rest.map (·.1)
        let (negated, inside) := match bytes with
          | '!' :: more => (true, more)
          | bytes => (false, bytes)
        match ranges? (inside.length + 1) [] inside with
        | some (ranges, after) => oneOf negated ranges :: ofBytes fuel (rest.drop (rest.length - after.length))
        | none => byte c :: ofBytes fuel rest
      | c => byte c :: ofBytes fuel rest

/-- Whether a pattern stands for bytes. -/
def matchesAll : List Matcher → Bytes → Bool
  | [], bytes => bytes.isEmpty
  | many :: rest, [] => matchesAll rest []
  | many :: rest, c :: bytes => matchesAll rest (c :: bytes) || matchesAll (many :: rest) bytes
  | _ :: _, [] => false
  | byte d :: rest, c :: bytes => c == d && matchesAll rest bytes
  | any :: rest, _ :: bytes => matchesAll rest bytes
  | oneOf negated ranges :: rest, c :: bytes =>
    (ranges.any fun (low, high) => decide (low ≤ c) && decide (c ≤ high)) != negated && matchesAll rest bytes
termination_by pattern bytes => pattern.length + bytes.length

/-- Bytes without a start that a pattern stands for, the shortest or the longest one. -/
def dropStart (pattern : List Matcher) (longest : Bool) (bytes : Bytes) : Bytes :=
  let sizes := List.range (bytes.length + 1)
  match (if longest then sizes.reverse else sizes).find? fun n => matchesAll pattern (bytes.take n) with
  | some n => bytes.drop n
  | none => bytes

/-- Bytes without an end that a pattern stands for, the shortest or the longest one. -/
def dropEnd (pattern : List Matcher) (longest : Bool) (bytes : Bytes) : Bytes :=
  let sizes := List.range (bytes.length + 1)
  match (if longest then sizes else sizes.reverse).find? fun n => matchesAll pattern (bytes.drop n) with
  | some n => bytes.take n
  | none => bytes

end Matcher
end WatchTrial.Rehearsal.Shell
