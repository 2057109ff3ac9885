/-!
# Ascending lists

A finite set over a linear order is kept as its strictly ascending list. `place` puts an element at
its place and leaves the list alone when the element is already there.
-/
namespace WatchTrial.Ascending

variable {α : Type} [DecidableEq α] (lt : α → α → Prop) [DecidableRel lt]

/-- Puts an element at its place in an ascending list that may already hold it. -/
def place (a : α) : List α → List α
  | [] => [a]
  | x :: xs => if lt a x then a :: x :: xs else if a = x then x :: xs else x :: place a xs

/-- The members of a list in ascending order, each once. -/
def ofList (xs : List α) : List α :=
  xs.foldr (place lt) []

variable {lt}

theorem mem_place {a x : α} {xs : List α} : x ∈ place lt a xs ↔ x = a ∨ x ∈ xs := by
  induction xs with
  | nil => simp [place]
  | cons y ys ih =>
    unfold place
    split
    · simp
    · split
      · subst_vars; simp
      · simp only [List.mem_cons, ih]
        constructor <;> rintro (h | h | h) <;> simp [h]

theorem pairwise_place (trans : ∀ a b c, lt a b → lt b c → lt a c)
    (total : ∀ a b, ¬ lt a b → a ≠ b → lt b a) (a : α) {xs : List α} (h : xs.Pairwise lt) :
    (place lt a xs).Pairwise lt := by
  induction xs with
  | nil => simp [place]
  | cons y ys ih =>
    have hy := List.pairwise_cons.mp h
    unfold place
    split
    next ha =>
      refine List.pairwise_cons.mpr ⟨fun z hz => ?_, h⟩
      rcases List.mem_cons.mp hz with rfl | hz
      · exact ha
      · exact trans _ _ _ ha (hy.1 z hz)
    next ha =>
      split
      · exact h
      next hne =>
        refine List.pairwise_cons.mpr ⟨fun z hz => ?_, ih hy.2⟩
        rcases mem_place.mp hz with rfl | hz
        · exact total _ _ ha hne
        · exact hy.1 z hz

theorem mem_ofList {x : α} {xs : List α} : x ∈ ofList lt xs ↔ x ∈ xs := by
  induction xs with
  | nil => simp [ofList]
  | cons y ys ih => simp only [ofList, List.foldr_cons, mem_place, List.mem_cons] at ih ⊢; rw [ih]

theorem pairwise_ofList (trans : ∀ a b c, lt a b → lt b c → lt a c)
    (total : ∀ a b, ¬ lt a b → a ≠ b → lt b a) (xs : List α) : (ofList lt xs).Pairwise lt := by
  induction xs with
  | nil => exact .nil
  | cons y ys ih => exact pairwise_place trans total y ih

end WatchTrial.Ascending
