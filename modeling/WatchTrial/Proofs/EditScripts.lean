import Mathlib.Data.List.Nodup
import WatchTrial.Text.Edit
/-!
# What an edit script keeps

A script comes about by splitting both lists around a run that they share, again and again, until no element
that may start a run is left on both sides. Taking the longest run first can lose shared elements. It loses
none when no list repeats an element and the shared elements come in the same order on both sides: then the
elements before a shared run can only be shared with elements before it, and those after it with those after.
-/
namespace WatchTrial.Text

/-- The list that a script leads from, or the one that it leads to. -/
inductive Side where
  | before
  | after
deriving DecidableEq

def Side.pick {β : Type} (before after : β) : Side → β
  | .before => before
  | .after => after

namespace Edit

variable {α β : Type}

/-- The element of an edit that only one side has. -/
def lone? : Side → Edit α → Option α
  | .before, .remove a => some a
  | .after, .add a => some a
  | _, _ => none

def element : Edit α → α
  | .keep a => a
  | .remove a => a
  | .add a => a

theorem eq_map_keep {edits : List (Edit α)} (h : ∀ side, edits.filterMap (lone? side) = []) :
    ∃ kept : List α, edits = kept.map keep := by
  induction edits with
  | nil => exact ⟨[], rfl⟩
  | cons edit rest ih =>
    cases edit with
    | keep a =>
      obtain ⟨kept, rfl⟩ := ih fun side => by
        have hside := h side
        cases side <;> exact hside
      exact ⟨a :: kept, rfl⟩
    | remove a => cases h .before
    | add a => cases h .after

section Runs

/-- Both lists end with the same `k` elements. -/
def EndAlike (k : Nat) (us vs : List α) : Prop := ∃ run : List α, run.length = k ∧ run <:+ us ∧ run <:+ vs

theorem EndAlike.zero (us vs : List α) : EndAlike 0 us vs :=
  ⟨[], rfl, List.nil_suffix, List.nil_suffix⟩

theorem EndAlike.concat {k : Nat} {us vs : List α} (h : EndAlike k us vs) (x : α) :
    EndAlike (k + 1) (us ++ [x]) (vs ++ [x]) := by
  obtain ⟨run, rfl, ⟨us', rfl⟩, ⟨vs', rfl⟩⟩ := h
  exact ⟨run ++ [x], by simp, ⟨us', by simp⟩, ⟨vs', by simp⟩⟩

/-- The lists are what lies before the run, the run itself, and what lies behind it. -/
def CommonRun.Splits (run : CommonRun) (xs ys : List α) : Prop :=
  ∃ xs₁ ys₁ common xs₂ ys₂, xs = xs₁ ++ common ++ xs₂ ∧ ys = ys₁ ++ common ++ ys₂ ∧
    run = ⟨xs₁.length, ys₁.length, common.length⟩

private theorem EndAlike.splits {k : Nat} {us vs : List α} (h : EndAlike k us vs) (xs ys : List α) :
    CommonRun.Splits ⟨us.length - k, vs.length - k, k⟩ (us ++ xs) (vs ++ ys) := by
  obtain ⟨run, rfl, ⟨us', rfl⟩, ⟨vs', rfl⟩⟩ := h
  refine ⟨us', vs', run, xs, ys, rfl, rfl, ?_⟩
  simp

variable [BEq α]

private theorem length_runLengths (usable : α → Bool) (x : α) (above : List Nat) (ys : List α) :
    (runLengths usable x above ys).length = ys.length := by
  induction ys generalizing above with
  | nil => rfl
  | cons y ys ih => simp [runLengths, ih]

private theorem improve_cases (i j : Nat) (row : List Nat) (best : CommonRun) :
    improve i j row best = best ∨
      ∃ n k, row[n]? = some k ∧ improve i j row best = ⟨i + 1 - k, j + n + 1 - k, k⟩ := by
  induction row generalizing j best with
  | nil => exact .inl rfl
  | cons k ks ih =>
    rw [improve]
    rcases ih (j + 1) (if best.size < k then ⟨i + 1 - k, j + 1 - k, k⟩ else best) with h | ⟨n, k', hk, h⟩
    · rw [h]
      split
      · exact .inr ⟨0, k, rfl, rfl⟩
      · exact .inl rfl
    · refine .inr ⟨n + 1, k', by simpa using hk, ?_⟩
      rw [h]
      simp [Nat.add_comm, Nat.add_left_comm]

private theorem size_le_improve (i j : Nat) (row : List Nat) (best : CommonRun) :
    best.size ≤ (improve i j row best).size ∧ ∀ k ∈ row, k ≤ (improve i j row best).size := by
  induction row generalizing j best with
  | nil => simp [improve]
  | cons k ks ih =>
    rw [improve]
    obtain ⟨hbest, hrest⟩ := ih (j + 1) (if best.size < k then ⟨i + 1 - k, j + 1 - k, k⟩ else best)
    have hboth : best.size ≤ (if best.size < k then ⟨i + 1 - k, j + 1 - k, k⟩ else best).size ∧
        k ≤ (if best.size < k then ⟨i + 1 - k, j + 1 - k, k⟩ else best).size := by
      split
      next hlt => exact ⟨Nat.le_of_lt hlt, Nat.le_refl k⟩
      next hle => exact ⟨Nat.le_refl _, Nat.not_lt.mp hle⟩
    refine ⟨Nat.le_trans hboth.1 hbest, ?_⟩
    intro k' hk'
    rcases List.mem_cons.mp hk' with rfl | hk'
    · exact Nat.le_trans hboth.2 hbest
    · exact hrest k' hk'

private theorem size_le_longestUsable (usable : α → Bool) (ys : List α) (i : Nat) (above : List Nat) (xs : List α)
    (best : CommonRun) : best.size ≤ (longestUsable usable ys i above xs best).size := by
  induction xs generalizing i above best with
  | nil => exact Nat.le_refl _
  | cons x xs ih =>
    rw [longestUsable]
    exact Nat.le_trans (size_le_improve i 0 _ best).1 (ih _ _ _)

variable [LawfulBEq α]

private theorem runLengths_endAlike (usable : α → Bool) (x : α) {above : List Nat} {us vs ys : List α}
    (h : ∀ n k, above[n]? = some k → EndAlike k us (vs ++ ys.take n)) :
    ∀ n k, (runLengths usable x above ys)[n]? = some k → EndAlike k (us ++ [x]) (vs ++ ys.take (n + 1)) := by
  induction ys generalizing above vs with
  | nil => simp [runLengths]
  | cons y ys ih =>
    intro n k hk
    rw [runLengths] at hk
    cases n with
    | zero =>
      have hk : (if x == y && usable y then above.headD 0 + 1 else 0) = k := by simpa using hk
      split at hk
      next hxy =>
        have hxy : x = y := by simp_all
        have habove : EndAlike (above.headD 0) us vs := by
          cases above with
          | nil => exact .zero us vs
          | cons k' _ => simpa using h 0 k' rfl
        rw [← hk, hxy]
        exact habove.concat y
      next =>
        rw [← hk]
        exact .zero _ _
    | succ n =>
      have habove : ∀ m k', (above.drop 1)[m]? = some k' → EndAlike k' us (vs ++ [y] ++ ys.take m) := by
        intro m k' hk'
        have hnext := h (m + 1) k' (by simpa [Nat.add_comm] using hk')
        simpa using hnext
      have hrow := ih habove n k (by simpa using hk)
      simpa using hrow

private theorem longestUsable_splits {usable : α → Bool} {xs ys : List α} (us : List α) {above : List Nat}
    {best : CommonRun} (habove : ∀ n k, above[n]? = some k → EndAlike k us (ys.take (n + 1)))
    (hbest : best.Splits (us ++ xs) ys) :
    (longestUsable usable ys us.length above xs best).Splits (us ++ xs) ys := by
  induction xs generalizing us above best with
  | nil => exact hbest
  | cons x xs ih =>
    have hshifted : ∀ n k, (0 :: above)[n]? = some k → EndAlike k us ([] ++ ys.take n) := by
      intro n k hk
      cases n with
      | zero =>
        obtain rfl : 0 = k := by simpa using hk
        exact .zero _ _
      | succ n => simpa using habove n k (by simpa using hk)
    have hrow := runLengths_endAlike usable x hshifted
    simp only [List.nil_append] at hrow
    have hmoved : us ++ x :: xs = us ++ [x] ++ xs := by simp
    have hlength : us.length + 1 = (us ++ [x]).length := by simp
    rw [longestUsable, hmoved, hlength]
    refine ih (us ++ [x]) hrow ?_
    rcases improve_cases us.length 0 (runLengths usable x (0 :: above) ys) best with hsame | ⟨n, k, hk, hnew⟩
    · rw [hsame, ← hmoved]
      exact hbest
    · have hn : n < ys.length := by
        rw [← length_runLengths usable x (0 :: above) ys]
        exact (List.getElem?_eq_some_iff.mp hk).1
      have hsplits := (hrow n k hk).splits xs (ys.drop (n + 1))
      rw [List.take_append_drop, List.length_take, Nat.min_eq_left hn, ← hlength] at hsplits
      rw [hnew, Nat.zero_add]
      exact hsplits

private theorem exists_pos_runLengths {usable : α → Bool} {x : α} {ys : List α} (above : List Nat) (hx : x ∈ ys)
    (husable : usable x = true) : ∃ k ∈ runLengths usable x above ys, 0 < k := by
  induction ys generalizing above with
  | nil => simp at hx
  | cons y ys ih =>
    rw [runLengths]
    by_cases hxy : x = y
    · refine ⟨_, List.mem_cons_self, ?_⟩
      simp [← hxy, husable]
    · obtain ⟨k, hk, hpos⟩ := ih (above.drop 1) ((List.mem_cons.mp hx).resolve_left hxy)
      exact ⟨k, List.mem_cons_of_mem _ hk, hpos⟩

private theorem longestUsable_pos {usable : α → Bool} {xs ys : List α} {a : α} (hxs : a ∈ xs) (hys : a ∈ ys)
    (husable : usable a = true) (i : Nat) (above : List Nat) (best : CommonRun) :
    0 < (longestUsable usable ys i above xs best).size := by
  induction xs generalizing i above best with
  | nil => simp at hxs
  | cons x xs ih =>
    rw [longestUsable]
    by_cases hax : a = x
    · subst hax
      obtain ⟨k, hk, hpos⟩ := exists_pos_runLengths (0 :: above) hys husable
      have hfound := (size_le_improve i 0 (runLengths usable a (0 :: above) ys) best).2 k hk
      exact Nat.lt_of_lt_of_le hpos (Nat.le_trans hfound (size_le_longestUsable usable ys _ _ _ _))
    · exact ih ((List.mem_cons.mp hxs).resolve_left hax) _ _ _

private theorem commonStart_isPrefix (xs ys : List α) :
    ∃ start : List α, start.length = commonStart xs ys ∧ start <+: xs ∧ start <+: ys := by
  fun_induction commonStart xs ys with
  | case1 x xs y ys heq ih =>
    obtain ⟨start, hlength, hxs, hys⟩ := ih
    obtain rfl : x = y := by simpa using heq
    exact ⟨x :: start, by simp [hlength], by simpa using hxs, by simpa using hys⟩
  | case2 => exact ⟨[], rfl, List.nil_prefix, List.nil_prefix⟩
  | case3 => exact ⟨[], rfl, List.nil_prefix, List.nil_prefix⟩

private theorem longestRun_splits (usable : α → Bool) (xs ys : List α) : (longestRun usable xs ys).Splits xs ys := by
  have hempty : CommonRun.Splits ⟨0, 0, 0⟩ xs ys := ⟨[], [], [], xs, ys, rfl, rfl, rfl⟩
  have hbest : (longestUsable usable ys 0 [] xs ⟨0, 0, 0⟩).Splits xs ys :=
    longestUsable_splits [] (by simp) hempty
  obtain ⟨xs₁, ys₁, common, xs₂, ys₂, hxs, hys, hrun⟩ := hbest
  -- the run grows into what lies around it
  obtain ⟨start, hstart, hxs₁, hys₁⟩ := commonStart_isPrefix xs₁.reverse ys₁.reverse
  obtain ⟨front, rfl⟩ := List.reverse_prefix.mp (start.reverse_reverse.symm ▸ hxs₁)
  obtain ⟨front', rfl⟩ := List.reverse_prefix.mp (start.reverse_reverse.symm ▸ hys₁)
  obtain ⟨rest, hrest, ⟨tail, rfl⟩, ⟨tail', rfl⟩⟩ := commonStart_isPrefix xs₂ ys₂
  refine ⟨front, front', start.reverse ++ common ++ rest, tail, tail', ?_, ?_, ?_⟩
  · simp [hxs]
  · simp [hys]
  · have htake : xs.take (front ++ start.reverse).length = front ++ start.reverse := by
      rw [hxs, List.append_assoc, List.take_left]
    have htake' : ys.take (front' ++ start.reverse).length = front' ++ start.reverse := by
      rw [hys, List.append_assoc, List.take_left]
    have hdrop : xs.drop ((front ++ start.reverse).length + common.length) = rest ++ tail := by
      rw [hxs, ← List.length_append, List.drop_left]
    have hdrop' : ys.drop ((front' ++ start.reverse).length + common.length) = rest ++ tail' := by
      rw [hys, ← List.length_append, List.drop_left]
    simp only [longestRun, hrun, htake, htake', hdrop, hdrop', ← hstart, ← hrest]
    simp [Nat.add_assoc]

private theorem longestRun_pos {usable : α → Bool} {xs ys : List α} {a : α} (hxs : a ∈ xs) (hys : a ∈ ys)
    (husable : usable a = true) : 0 < (longestRun usable xs ys).size := by
  have hpos := longestUsable_pos hxs hys husable 0 [] ⟨0, 0, 0⟩
  unfold longestRun
  simp only
  omega

end Runs

/-- How a script comes about: the lists have no element in common that may start a run, or they are split
around a run that they share. -/
inductive Aligns (usable : α → Bool) : List α → List α → List (Edit α) → Prop
  | apart {xs ys : List α} (h : ∀ a ∈ xs, usable a = true → a ∉ ys) :
    Aligns usable xs ys (xs.map remove ++ ys.map add)
  | along {xs₁ ys₁ common xs₂ ys₂ : List α} {front rest : List (Edit α)} (h : common ≠ [])
    (hfront : Aligns usable xs₁ ys₁ front) (hrest : Aligns usable xs₂ ys₂ rest) :
    Aligns usable (xs₁ ++ common ++ xs₂) (ys₁ ++ common ++ ys₂) (front ++ common.map keep ++ rest)

theorem Aligns.element_mem {usable : α → Bool} {xs ys : List α} {edits : List (Edit α)}
    (h : Aligns usable xs ys edits) : ∀ edit ∈ edits, edit.element ∈ xs ++ ys := by
  induction h with
  | @apart xs ys h =>
    intro edit hedit
    rcases List.mem_append.mp hedit with hedit | hedit <;> obtain ⟨a, ha, rfl⟩ := List.mem_map.mp hedit <;>
      simp [element, ha]
  | @along xs₁ ys₁ common xs₂ ys₂ front rest h hfront hrest ihfront ihrest =>
    intro edit hedit
    simp only [List.mem_append] at hedit ihfront ihrest ⊢
    rcases hedit with (hedit | hedit) | hedit
    · rcases ihfront edit hedit with hmem | hmem <;> simp [hmem]
    · obtain ⟨a, ha, rfl⟩ := List.mem_map.mp hedit
      simp [element, ha]
    · rcases ihrest edit hedit with hmem | hmem <;> simp [hmem]

/-- The elements that two lists share come in one order. -/
def Concordant (xs ys : List α) : Prop := ∀ a b, List.Sublist [a, b] xs → ¬ List.Sublist [b, a] ys

namespace Concordant

variable {xs ys xs' ys' : List α}

theorem symm (h : Concordant xs ys) : Concordant ys xs := fun a b hab hba => h b a hba hab

theorem mono (h : Concordant xs ys) (hxs : xs'.Sublist xs) (hys : ys'.Sublist ys) : Concordant xs' ys' :=
  fun a b hab hba => h a b (hab.trans hxs) (hba.trans hys)

/-- Lists that ascend in one order are concordant, also when their elements are shown by names that tell
them apart. -/
theorem map {lt : β → β → Prop} (hasymm : ∀ a b, lt a b → ¬ lt b a) {f : β → α} {us vs : List β}
    (hf : ∀ a ∈ us, ∀ b ∈ vs, f a = f b → a = b) (hus : us.Pairwise lt) (hvs : vs.Pairwise lt) :
    Concordant (us.map f) (vs.map f) := by
  intro a b hab hba
  obtain ⟨l, hl, hshown⟩ := List.sublist_map_iff.mp hab
  obtain ⟨l', hl', hshown'⟩ := List.sublist_map_iff.mp hba
  obtain ⟨u, u', rfl⟩ := List.length_eq_two.mp (by simpa using congrArg List.length hshown.symm)
  obtain ⟨v', v, rfl⟩ := List.length_eq_two.mp (by simpa using congrArg List.length hshown'.symm)
  obtain ⟨rfl, rfl⟩ : a = f u ∧ b = f u' := by simpa using hshown
  obtain ⟨hv', hv⟩ : f u' = f v' ∧ f u = f v := by simpa using hshown'
  have hu := hf u (hl.subset (by simp)) v (hl'.subset (by simp)) hv
  have hu' := hf u' (hl.subset (by simp)) v' (hl'.subset (by simp)) hv'
  subst hu hu'
  exact hasymm u u' (List.pairwise_iff_forall_sublist.mp hus hl) (List.pairwise_iff_forall_sublist.mp hvs hl')

end Concordant

section Kept

variable [BEq α] [LawfulBEq α] {usable : α → Bool} {xs ys : List α}

theorem scriptWith_aligns (usable : α → Bool) (xs ys : List α) :
    Aligns usable xs ys (scriptWith usable xs ys) := by
  induction hn : xs.length using Nat.strongRecOn generalizing xs ys with
  | ind n ih =>
    obtain ⟨xs₁, ys₁, common, xs₂, ys₂, hxs, hys, hrun⟩ := longestRun_splits usable xs ys
    rw [scriptWith, hrun]
    simp only
    by_cases hcommon : common = []
    · rw [dif_neg (by simp [hcommon])]
      refine .apart fun a ha husable hmem => ?_
      have hpos := longestRun_pos ha hmem husable
      simp [hrun, hcommon] at hpos
    · have hpos := List.length_pos_iff.mpr hcommon
      have hlength : n = xs₁.length + common.length + xs₂.length := by
        rw [← hn, hxs, List.length_append, List.length_append]
      rw [dif_pos ⟨hpos, by omega⟩]
      have hmiddle : (xs.drop xs₁.length).take common.length = common := by
        rw [hxs, List.append_assoc, List.drop_left, List.take_left]
      have hfront : xs.take xs₁.length = xs₁ ∧ ys.take ys₁.length = ys₁ := by
        rw [hxs, hys, List.append_assoc, List.append_assoc, List.take_left, List.take_left]
        exact ⟨rfl, rfl⟩
      have hrest : xs.drop (xs₁.length + common.length) = xs₂ ∧ ys.drop (ys₁.length + common.length) = ys₂ := by
        rw [hxs, hys, ← List.length_append, ← List.length_append, List.drop_left, List.drop_left]
        exact ⟨rfl, rfl⟩
      rw [hmiddle, hfront.1, hfront.2, hrest.1, hrest.2]
      nth_rewrite 1 [hxs]
      nth_rewrite 1 [hys]
      exact .along hcommon (ih xs₁.length (by omega) xs₁ ys₁ rfl) (ih xs₂.length (by omega) xs₂ ys₂ rfl)

private theorem filter_not_contains_along {xs₁ ys₁ common xs₂ ys₂ : List α} (hcommon : common ≠ [])
    (hnodup : (xs₁ ++ common ++ xs₂).Nodup) (horder : Concordant (xs₁ ++ common ++ xs₂) (ys₁ ++ common ++ ys₂)) :
    (xs₁ ++ common ++ xs₂).filter (! (ys₁ ++ common ++ ys₂).contains ·) =
      xs₁.filter (! ys₁.contains ·) ++ xs₂.filter (! ys₂.contains ·) := by
  obtain ⟨m, hm⟩ := List.exists_mem_of_ne_nil common hcommon
  have hm := List.singleton_sublist.mpr hm
  obtain ⟨hnodup₁, -, hapart₂⟩ := List.nodup_append.mp hnodup
  obtain ⟨-, -, hapart₁⟩ := List.nodup_append.mp hnodup₁
  have hfront : ∀ a ∈ xs₁, a ∉ common ∧ a ∉ ys₂ := by
    refine fun a ha => ⟨fun h => hapart₁ a ha a h rfl, fun h => horder a m ?_ ?_⟩
    · exact ((List.singleton_sublist.mpr ha).append hm).trans (List.sublist_append_left _ _)
    · exact (hm.trans (List.sublist_append_right _ _)).append (List.singleton_sublist.mpr h)
  have hback : ∀ c ∈ xs₂, c ∉ common ∧ c ∉ ys₁ := by
    refine fun c hc => ⟨fun h => hapart₂ c (List.mem_append_right _ h) c hc rfl, fun h => horder m c ?_ ?_⟩
    · exact (hm.trans (List.sublist_append_right _ _)).append (List.singleton_sublist.mpr hc)
    · exact ((List.singleton_sublist.mpr h).append hm).trans (List.sublist_append_left _ _)
  have hmiddle : common.filter (! (ys₁ ++ common ++ ys₂).contains ·) = [] := by
    refine List.filter_eq_nil_iff.mpr fun a ha => ?_
    simp [ha]
  rw [List.filter_append, List.filter_append, hmiddle, List.append_nil]
  congr 1
  · refine List.filter_congr fun a ha => ?_
    have ha := hfront a ha
    simp_all
  · refine List.filter_congr fun c hc => ?_
    have hc := hback c hc
    simp_all

/-- A script of concordant lists without repetitions loses nothing that they share. -/
theorem Aligns.lone {edits : List (Edit α)} (h : Aligns usable xs ys edits) (husable : ∀ a ∈ ys, usable a = true)
    (hxs : xs.Nodup) (hys : ys.Nodup) (horder : Concordant xs ys) (side : Side) :
    edits.filterMap (lone? side) = (side.pick xs ys).filter (! (side.pick ys xs).contains ·) := by
  induction h with
  | @apart xs ys h =>
    have hlone : (xs.map remove ++ ys.map add).filterMap (lone? side) = side.pick xs ys := by
      cases side <;> simp [lone?, Side.pick, Function.comp_def]
    have hnone : ∀ a ∈ side.pick xs ys, a ∉ side.pick ys xs := by
      cases side with
      | before => exact fun a ha hmem => h a ha (husable a hmem) hmem
      | after => exact fun a ha hmem => h a hmem (husable a ha) ha
    rw [hlone]
    exact (List.filter_eq_self.mpr (by simpa using hnone)).symm
  | @along xs₁ ys₁ common xs₂ ys₂ front rest h hfront hrest ihfront ihrest =>
    have hkept : (common.map keep).filterMap (lone? side) = [] := by
      cases side <;> simp [lone?]
    have husable₁ : ∀ a ∈ ys₁, usable a = true := fun a ha => husable a (by simp [ha])
    have husable₂ : ∀ a ∈ ys₂, usable a = true := fun a ha => husable a (by simp [ha])
    have ihfront := ihfront husable₁ hxs.of_append_left.of_append_left hys.of_append_left.of_append_left
      (horder.mono (by simp) (by simp))
    have ihrest := ihrest husable₂ hxs.of_append_right hys.of_append_right (horder.mono (by simp) (by simp))
    rw [List.filterMap_append, List.filterMap_append, hkept, List.append_nil, ihfront, ihrest]
    cases side with
    | before => exact (filter_not_contains_along h hxs horder).symm
    | after => exact (filter_not_contains_along h hys horder.symm).symm

theorem script_lone (hxs : xs.Nodup) (hys : ys.Nodup) (horder : Concordant xs ys) (side : Side) :
    (script xs ys).filterMap (lone? side) = (side.pick xs ys).filter (! (side.pick ys xs).contains ·) := by
  refine (scriptWith_aligns _ xs ys).lone (fun a ha => ?_) hxs hys horder side
  have hcount : ys.count a ≤ 1 := List.nodup_iff_count_le_one.mp hys a
  have hnot : ¬ ys.length / 100 + 1 < ys.count a := by omega
  simp [overused, hnot]

end Kept

end Edit
end WatchTrial.Text
