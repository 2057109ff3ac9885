/-!
# Edit scripts

An edit script turns one list into another by keeping, removing and adding elements. The script keeps
the longest common run, the leftmost one among equals, and treats what lies before and after it in
the same way. Elements that occur too often in a long list do not start a run, but may extend one.
-/
namespace WatchTrial.Text

/-- What happens to one element. -/
inductive Edit (α : Type) where
  | keep (a : α)
  | remove (a : α)
  | add (a : α)
deriving Repr, DecidableEq

namespace Edit

variable {α : Type} [BEq α]

/-- A common run: where it starts on both sides, and its length. -/
structure CommonRun where
  left : Nat
  right : Nat
  size : Nat
deriving Repr, DecidableEq

/-- Lengths of the common runs that end at one element of the left list and at each of the right:
`above` are the lengths one element earlier, shifted by one. -/
def runLengths (usable : α → Bool) (x : α) : (above : List Nat) → List α → List Nat
  | _, [] => []
  | above, y :: ys =>
    (if x == y && usable y then above.headD 0 + 1 else 0) :: runLengths usable x (above.drop 1) ys

/-- The best run after looking at the runs that end at element `i` of the left list. -/
def improve (i : Nat) : (j : Nat) → List Nat → CommonRun → CommonRun
  | _, [], best => best
  | j, k :: ks, best =>
    improve i (j + 1) ks (if best.size < k then ⟨i + 1 - k, j + 1 - k, k⟩ else best)

/-- The longest common run of usable elements, leftmost first. -/
def longestUsable (usable : α → Bool) (ys : List α) :
    (i : Nat) → List Nat → List α → CommonRun → CommonRun
  | _, _, [], best => best
  | i, above, x :: xs, best =>
    let row := runLengths usable x (0 :: above) ys
    longestUsable usable ys (i + 1) row xs (improve i 0 row best)

def commonStart : List α → List α → Nat
  | x :: xs, y :: ys => if x == y then commonStart xs ys + 1 else 0
  | _, _ => 0

/-- The longest common run of usable elements, extended on both sides as far as the lists agree. -/
def longestRun (usable : α → Bool) (xs ys : List α) : CommonRun :=
  let best := longestUsable usable ys 0 [] xs ⟨0, 0, 0⟩
  let before := commonStart (xs.take best.left).reverse (ys.take best.right).reverse
  let after := commonStart (xs.drop (best.left + best.size)) (ys.drop (best.right + best.size))
  ⟨best.left - before, best.right - before, before + best.size + after⟩

/-- The edits that turn `xs` into `ys`, with the given elements usable as starts of runs. -/
def scriptWith (usable : α → Bool) (xs ys : List α) : List (Edit α) :=
  match longestRun usable xs ys with
  | ⟨left, right, size⟩ =>
    if _h : 0 < size ∧ left + size ≤ xs.length then
      scriptWith usable (xs.take left) (ys.take right) ++
        ((xs.drop left).take size).map keep ++
        scriptWith usable (xs.drop (left + size)) (ys.drop (right + size))
    else xs.map remove ++ ys.map add
termination_by xs.length
decreasing_by
  · simp only [List.length_take]; omega
  · simp only [List.length_drop]; omega

/-- Whether an element occurs too often in a list to start a run: only lists of two hundred elements
or more have such elements, and more than one in a hundred has to be a copy. -/
def overused (ys : List α) (y : α) : Bool :=
  decide (200 ≤ ys.length) && decide (ys.length / 100 + 1 < ys.count y)

/-- The edits that turn `xs` into `ys`. -/
def script (xs ys : List α) : List (Edit α) :=
  scriptWith (fun y => ! overused ys y) xs ys

end Edit
end WatchTrial.Text
