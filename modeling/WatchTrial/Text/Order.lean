import WatchTrial.Ascending
/-!
# Texts in order

Texts are compared character by character, which is the order of their bytes in UTF-8.
-/
namespace WatchTrial.Text

theorem lt_total {a b : String} (h : ¬ a < b) (hne : a ≠ b) : b < a :=
  Std.lt_of_le_of_ne (Std.not_lt.mp h) (Ne.symm hne)

/-- The members of a list of texts in ascending order, each once. -/
def ascending (xs : List String) : List String :=
  Ascending.ofList (· < ·) xs

theorem mem_ascending {x : String} {xs : List String} : x ∈ ascending xs ↔ x ∈ xs :=
  Ascending.mem_ofList

theorem pairwise_ascending (xs : List String) : (ascending xs).Pairwise (· < ·) := by
  refine Ascending.pairwise_ofList ?_ ?_ xs
  · exact fun _ _ _ => String.lt_trans
  · exact fun _ _ => lt_total

/-- A list of texts in ascending order, with repetitions. -/
def sort (xs : List String) : List String :=
  xs.mergeSort fun a b => decide (a ≤ b)

end WatchTrial.Text
