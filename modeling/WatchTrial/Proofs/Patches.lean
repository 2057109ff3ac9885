import WatchTrial.Proofs.EditScripts
import WatchTrial.Text.Lines
import WatchTrial.Text.Patch
/-!
# What a patch shows

A patch leaves out unchanged lines only. However its runs are shortened and cut into hunks, the lines that only
one side has are all there, in their order, behind the sign of their side; and a patch is empty just when there
are none.
-/
namespace WatchTrial.Text

/-- A text that is one line with the line feed that ends it. -/
def IsLine (text : String) : Prop := ∃ line : List Char, '\n' ∉ line ∧ text.toList = line ++ ['\n']

theorem IsLine.append {text : String} (h : IsLine text) {lead : String} (hlead : '\n' ∉ lead.toList) :
    IsLine (lead ++ text) := by
  obtain ⟨line, hline, htext⟩ := h
  exact ⟨lead.toList ++ line, by simp [hlead, hline], by simp [htext]⟩

private theorem lines_join {texts : List String} (h : ∀ text ∈ texts, IsLine text) :
    lines (String.join texts).toList = texts.map (·.toList.dropLast) ++ [[]] := by
  induction texts with
  | nil => exact lines_of_not_mem (by simp)
  | cons text rest ih =>
    obtain ⟨⟨line, hline, htext⟩, hrest⟩ := List.forall_mem_cons.mp h
    have hjoin : (String.join (text :: rest)).toList = line ++ '\n' :: (String.join rest).toList := by
      rw [String.join_cons, String.toList_append, htext]
      simp
    rw [hjoin, lines_append, lines_of_not_mem hline, ih hrest]
    simp [htext]

private theorem filter_lines_join {texts : List String} (h : ∀ text ∈ texts, IsLine text) {start : List Char}
    (hne : start ≠ []) (hstart : '\n' ∉ start) :
    (lines (String.join texts).toList).filter (start.isPrefixOf ·) =
      ((texts.filter (start.isPrefixOf ·.toList)).map String.toList).map List.dropLast := by
  have hlast : [([] : List Char)].filter (start.isPrefixOf ·) = [] := by
    cases start with
    | nil => exact absurd rfl hne
    | cons c rest => rfl
  rw [lines_join h, List.filter_append, hlast, List.append_nil, List.filter_map, List.map_map]
  congr 1
  refine List.filter_congr fun text htext => ?_
  obtain ⟨line, -, hline⟩ := h text htext
  rw [Function.comp_apply, hline, List.dropLast_concat, Bool.eq_iff_iff, List.isPrefixOf_iff_prefix,
    List.isPrefixOf_iff_prefix]
  constructor
  · exact fun hpre => hpre.trans (List.prefix_append _ _)
  · intro hpre
    -- the line feed at the end is not part of the start
    rcases List.prefix_concat_iff.mp hpre with heq | hpre
    · exact absurd (heq ▸ List.mem_concat_self) hstart
    · exact hpre

def Side.sign : Side → Char
  | .before => '-'
  | .after => '+'

namespace Patch

namespace Run

/-- The lines of a run that only one side has. -/
def lone (side : Side) (run : Run) : List String :=
  if run.unchanged then [] else side.pick run.removed run.added

def content (run : Run) : List String := run.removed ++ run.added

/-- The run is unchanged like another one, and has some of its lines. -/
structure IsPartOf (part run : Run) : Prop where
  unchanged : part.unchanged = run.unchanged
  content : part.content ⊆ run.content

private theorem isPartOf_take (n : Nat) (run : Run) : (run.take n).IsPartOf run :=
  ⟨rfl, ((List.take_sublist n _).append (List.take_sublist n _)).subset⟩

private theorem isPartOf_takeLast (n : Nat) (run : Run) : (run.takeLast n).IsPartOf run :=
  ⟨rfl, ((List.drop_sublist _ _).append (List.drop_sublist _ _)).subset⟩

variable {run : Run}

private theorem lone_of_unchanged (h : run.unchanged = true) (side : Side) : run.lone side = [] := by
  rw [lone, if_pos h]

private theorem isLine_marked (h : ∀ line ∈ run.content, IsLine line) : ∀ line ∈ run.marked, IsLine line := by
  obtain ⟨hremoved, hadded⟩ := List.forall_mem_append.mp h
  have hmap {mark : String} (hmark : '\n' ∉ mark.toList) {lines : List String}
      (hlines : ∀ line ∈ lines, IsLine line) : ∀ line ∈ lines.map (mark ++ ·), IsLine line := by
    intro text htext
    obtain ⟨line, hline, rfl⟩ := List.mem_map.mp htext
    exact (hlines line hline).append hmark
  unfold marked
  split
  · exact hmap (by decide) hremoved
  · exact List.forall_mem_append.mpr ⟨hmap (by decide) hremoved, hmap (by decide) hadded⟩

private theorem filter_marked {start : List Char} (h : ∀ line ∈ run.content, start <+: line.toList) (side : Side) :
    (run.marked.filter ((side.sign :: start).isPrefixOf ·.toList)).map String.toList =
      (run.lone side).map (side.sign :: ·.toList) := by
  have hmarked (mark : Char) (line : String) :
      (side.sign :: start).isPrefixOf (String.ofList [mark] ++ line).toList = true ↔
        side.sign = mark ∧ start <+: line.toList := by
    rw [List.isPrefixOf_iff_prefix, String.toList_append, String.toList_ofList, List.singleton_append,
      List.cons_prefix_cons]
  have hother {mark : Char} (hmark : side.sign ≠ mark) (lines : List String) :
      (lines.map (String.ofList [mark] ++ ·)).filter ((side.sign :: start).isPrefixOf ·.toList) = [] := by
    refine List.filter_eq_nil_iff.mpr fun text htext => ?_
    obtain ⟨line, -, rfl⟩ := List.mem_map.mp htext
    rw [hmarked]
    exact fun hboth => hmark hboth.1
  have hown {lines : List String} (hlines : ∀ line ∈ lines, start <+: line.toList) :
      ((lines.map (String.ofList [side.sign] ++ ·)).filter ((side.sign :: start).isPrefixOf ·.toList)).map
        String.toList = lines.map (side.sign :: ·.toList) := by
    rw [List.filter_eq_self.mpr, List.map_map]
    · exact List.map_congr_left fun line _ => by simp
    · intro text htext
      obtain ⟨line, hline, rfl⟩ := List.mem_map.mp htext
      exact (hmarked _ _).mpr ⟨rfl, hlines line hline⟩
  obtain ⟨hremoved, hadded⟩ := List.forall_mem_append.mp h
  unfold marked lone
  split
  · change (List.filter _ (run.removed.map (String.ofList [' '] ++ ·))).map _ = _
    rw [hother (by cases side <;> decide)]
    rfl
  · change (List.filter _ (run.removed.map (String.ofList ['-'] ++ ·) ++
      run.added.map (String.ofList ['+'] ++ ·))).map _ = _
    cases side with
    | before =>
      rw [List.filter_append, hother (by decide) run.added, List.append_nil]
      exact hown hremoved
    | after =>
      rw [List.filter_append, hother (by decide) run.removed, List.nil_append]
      exact hown hadded

end Run

/-- From one list of runs to another, no line was changed and no line that only one side has was lost. -/
structure Retains (runs runs' : List Run) : Prop where
  content : runs'.flatMap Run.content ⊆ runs.flatMap Run.content
  lone : ∀ side, runs'.flatMap (Run.lone side) = runs.flatMap (Run.lone side)

namespace Retains

variable {run : Run} {runs₁ runs₁' runs₂ runs₂' : List Run}

theorem refl (runs : List Run) : Retains runs runs := ⟨List.Subset.refl _, fun _ => rfl⟩

theorem trans (h : Retains runs₁ runs₁') (h' : Retains runs₁' runs₂) : Retains runs₁ runs₂ :=
  ⟨List.Subset.trans h'.content h.content, fun side => (h'.lone side).trans (h.lone side)⟩

theorem append (h₁ : Retains runs₁ runs₁') (h₂ : Retains runs₂ runs₂') :
    Retains (runs₁ ++ runs₂) (runs₁' ++ runs₂') where
  content := by
    rw [List.flatMap_append, List.flatMap_append]
    exact List.append_subset.mpr ⟨List.Subset.trans h₁.content (List.subset_append_left _ _),
      List.Subset.trans h₂.content (List.subset_append_right _ _)⟩
  lone side := by rw [List.flatMap_append, List.flatMap_append, h₁.lone, h₂.lone]

/-- An unchanged run may give way to some parts of it, or to none. -/
theorem parts {parts : List Run} (h : run.unchanged = true) (hparts : ∀ part ∈ parts, part.IsPartOf run) :
    Retains [run] parts where
  content := by
    intro line hline
    obtain ⟨part, hpart, hline⟩ := List.mem_flatMap.mp hline
    rw [List.flatMap_singleton]
    exact (hparts part hpart).content hline
  lone side := by
    rw [List.flatMap_singleton, Run.lone_of_unchanged h, List.flatMap_eq_nil_iff]
    intro part hpart
    exact Run.lone_of_unchanged ((hparts part hpart).unchanged.trans h) side

theorem trimFirst (n : Nat) (runs : List Run) : Retains runs (trimFirst n runs) := by
  cases runs with
  | nil => exact .refl []
  | cons run rest =>
    rw [Patch.trimFirst]
    split
    next h =>
      have hlast : Retains [run] [run.takeLast n] := parts h (by simpa using run.isPartOf_takeLast n)
      exact hlast.append (.refl rest)
    next => exact .refl _

theorem trimLast (n : Nat) (runs : List Run) : Retains runs (trimLast n runs) := by
  fun_induction Patch.trimLast n runs with
  | case1 => exact .refl []
  | case2 run =>
    split
    next h => exact parts h (by simpa using run.isPartOf_take n)
    next => exact .refl _
  | case3 run rest _ ih => exact (refl [run]).append ih

theorem hunks (n : Nat) (current runs : List Run) : Retains (current ++ runs) (hunks n current runs).flatten := by
  fun_induction Patch.hunks n current runs with
  | case1 current hworth => simpa using refl current
  | case2 current hworth =>
    -- what is not worth showing is at most one unchanged run
    unfold worthShowing at hworth
    split at hworth
    · exact .refl []
    next run => exact parts (by simpa using hworth) (by simp)
    · exact absurd rfl hworth
  | case3 current run rest h ih =>
    have hrun : run.unchanged = true := by simp_all
    have hcut : Retains [run] ([run.take n] ++ [run.takeLast n]) :=
      parts hrun (by simpa using ⟨run.isPartOf_take n, run.isPartOf_takeLast n⟩)
    have hstep := ((refl current).append hcut).append (refl rest)
    have hrest := (refl (current ++ [run.take n])).append ih
    simp only [List.append_assoc, List.cons_append, List.nil_append, List.flatten_cons] at hstep hrest ⊢
    exact hstep.trans hrest
  | case4 current run rest h ih => simpa using ih

theorem locate (left right : Nat) (runs : List Run) : Retains runs (locate left right runs) := by
  induction runs generalizing left right with
  | nil => exact .refl []
  | cons run rest ih =>
    have hmoved : Retains [run] [{ run with left, right }] := ⟨List.Subset.refl _, fun _ => rfl⟩
    exact hmoved.append (ih _ _)

end Retains

section Attached

variable (edit : Edit String) (runs : List Run)

private theorem attach_lone (side : Side) :
    (attach edit runs).flatMap (Run.lone side) = (edit.lone? side).toList ++ runs.flatMap (Run.lone side) := by
  unfold attach
  split <;> cases side <;> simp_all [Run.lone, Edit.lone?, Side.pick]

private theorem attach_content :
    (attach edit runs).flatMap Run.content ⊆ edit.element :: runs.flatMap Run.content := by
  intro line hline
  unfold attach at hline
  split at hline <;> simp only [Run.content, Edit.element, List.flatMap_cons, List.mem_append, List.mem_cons,
    List.not_mem_nil] at hline ⊢ <;> grind

end Attached

private theorem runs_keep (kept : List String) :
    runs (kept.map .keep) = if kept = [] then [] else [⟨0, 0, true, kept, kept⟩] := by
  have hattached : (kept.map Edit.keep).foldr attach [] =
      if kept = [] then [] else [⟨0, 0, true, kept, kept⟩] := by
    induction kept with
    | nil => rfl
    | cons line rest ih =>
      rw [List.map_cons, List.foldr_cons, ih]
      cases rest <;> rfl
  rw [runs, hattached]
  split <;> rfl

/-- The hunks of the patch between two lists of lines. -/
def hunksBetween (n : Nat) (xs ys : List String) : List (List Run) :=
  hunks n [] (trimLast n (trimFirst n (runs (Edit.script xs ys))))

private theorem hunksBetween_retains (n : Nat) (xs ys : List String) :
    Retains ((Edit.script xs ys).foldr attach []) (hunksBetween n xs ys).flatten := by
  have hruns := Retains.locate 0 0 ((Edit.script xs ys).foldr attach [])
  exact ((hruns.trans (.trimFirst n _)).trans (.trimLast n _)).trans (.hunks n [] _)

/-- No line that only one side has is missing in the hunks. -/
theorem hunksBetween_lone (n : Nat) (xs ys : List String) (side : Side) :
    (hunksBetween n xs ys).flatten.flatMap (Run.lone side) = (Edit.script xs ys).filterMap (Edit.lone? side) := by
  rw [(hunksBetween_retains n xs ys).lone]
  induction Edit.script xs ys with
  | nil => rfl
  | cons edit rest ih =>
    rw [List.foldr_cons, attach_lone, ih, List.filterMap_cons]
    cases edit.lone? side <;> rfl

private theorem attached_content (xs ys : List String) :
    ((Edit.script xs ys).foldr attach []).flatMap Run.content ⊆ xs ++ ys := by
  have hedits := (Edit.scriptWith_aligns (fun y => ! Edit.overused ys y) xs ys).element_mem
  change ∀ edit ∈ Edit.script xs ys, edit.element ∈ xs ++ ys at hedits
  generalize Edit.script xs ys = edits at hedits
  induction edits with
  | nil => exact List.nil_subset _
  | cons edit rest ih =>
    obtain ⟨hedit, hrest⟩ := List.forall_mem_cons.mp hedits
    exact List.Subset.trans (attach_content edit _) (List.cons_subset.mpr ⟨hedit, ih hrest⟩)

/-- The hunks have no lines but those of the two sides. -/
theorem hunksBetween_content {n : Nat} {xs ys : List String} {hunk : List Run} {run : Run}
    (hhunk : hunk ∈ hunksBetween n xs ys) (hrun : run ∈ hunk) : run.content ⊆ xs ++ ys := by
  intro line hline
  have hshown : line ∈ (hunksBetween n xs ys).flatten.flatMap Run.content :=
    List.mem_flatMap.mpr ⟨run, List.mem_flatten.mpr ⟨hunk, hhunk, hrun⟩, hline⟩
  exact attached_content xs ys ((hunksBetween_retains n xs ys).content hshown)

private theorem hunks_unchanged {n : Nat} {run : Run} (hunchanged : run.unchanged = true)
    (hshort : run.removed.length ≤ n + n) : hunks n [] [run] = [] := by
  have hwhole : (run.unchanged && decide (n + n < run.removed.length)) = false := by
    rw [hunchanged, Bool.true_and, decide_eq_false (Nat.not_lt.mpr hshort)]
  rw [hunks, hwhole, if_neg Bool.false_ne_true, hunks, List.nil_append, worthShowing, hunchanged]
  rfl

private theorem hunksBetween_eq_nil_iff (n : Nat) (xs ys : List String) :
    hunksBetween n xs ys = [] ↔ ∀ side, (Edit.script xs ys).filterMap (Edit.lone? side) = [] := by
  constructor
  · intro h side
    rw [← hunksBetween_lone n, h]
    rfl
  · intro h
    obtain ⟨kept, hkept⟩ := Edit.eq_map_keep h
    rw [hunksBetween, hkept, runs_keep]
    split
    · rfl
    · -- one unchanged run, shortened to the lines around a change that is not there
      refine hunks_unchanged rfl (Nat.le_trans (List.length_take_le n _) ?_)
      omega

def heading (first : Run) (hunk : List Run) : String :=
  "@@ -" ++ showRange first.left ((hunk.map (·.removed.length)).foldl (· + ·) 0) ++ " +" ++
    showRange first.right ((hunk.map (·.added.length)).foldl (· + ·) 0) ++ " @@\n"

def hunkLines : List Run → List String
  | [] => []
  | first :: rest => heading first (first :: rest) :: (first :: rest).flatMap Run.marked

private theorem join_map_showHunk (found : List (List Run)) :
    String.join (found.map showHunk) = String.join (found.flatMap hunkLines) := by
  induction found with
  | nil => rfl
  | cons hunk rest ih =>
    have hhunk : showHunk hunk = String.join (hunkLines hunk) := by
      cases hunk with
      | nil => rfl
      | cons first runs =>
        rw [hunkLines, String.join_cons]
        rfl
    rw [List.map_cons, String.join_cons, List.flatMap_cons, String.join_append, hhunk, ih]

private theorem not_mem_showRange (start length : Nat) : '\n' ∉ (showRange start length).toList := by
  have hnumber (n : Nat) : '\n' ∉ Nat.toDigits 10 n := by
    intro h
    exact absurd (Nat.isDigit_of_mem_toDigits (by decide) (by decide) h) (by decide)
  unfold showRange
  split <;> simp [hnumber]

private theorem isLine_heading (first : Run) (hunk : List Run) : IsLine (heading first hunk) := by
  have hend : IsLine " @@\n" := ⟨" @@".toList, by decide, rfl⟩
  refine hend.append ?_
  simp [not_mem_showRange]

def patchLines (n : Nat) (before after : String) (xs ys : List String) : List String :=
  if hunksBetween n xs ys = [] then []
  else ("--- " ++ before ++ "\n") :: ("+++ " ++ after ++ "\n") :: (hunksBetween n xs ys).flatMap hunkLines

section Rendered

variable (n : Nat) (before after : String) (xs ys : List String)

private theorem render_eq_join : render n before after xs ys = String.join (patchLines n before after xs ys) := by
  unfold render patchLines hunksBetween
  split
  next h =>
    rw [if_pos h]
    rfl
  next h =>
    rw [if_neg h, String.join_cons, String.join_cons, ← join_map_showHunk]
    apply String.ext
    simp

theorem render_eq_empty_iff :
    render n before after xs ys = "" ↔ ∀ side, (Edit.script xs ys).filterMap (Edit.lone? side) = [] := by
  rw [← hunksBetween_eq_nil_iff n, render_eq_join, patchLines]
  split
  next h => simp [h]
  next h =>
    refine ⟨fun hempty => ?_, fun hnone => absurd hnone h⟩
    have htext := congrArg String.toList hempty
    simp at htext

variable {before after xs ys}

private theorem isLine_patchLines (hbefore : '\n' ∉ before.toList) (hafter : '\n' ∉ after.toList)
    (hlines : ∀ line ∈ xs ++ ys, IsLine line) : ∀ line ∈ patchLines n before after xs ys, IsLine line := by
  have hend : IsLine "\n" := ⟨[], by simp, rfl⟩
  have hhunks : ∀ line ∈ (hunksBetween n xs ys).flatMap hunkLines, IsLine line := by
    intro line hline
    obtain ⟨hunk, hhunk, hline⟩ := List.mem_flatMap.mp hline
    cases hunk with
    | nil => cases hline
    | cons first rest =>
      rcases List.mem_cons.mp hline with rfl | hline
      · exact isLine_heading _ _
      · obtain ⟨run, hrun, hline⟩ := List.mem_flatMap.mp hline
        exact Run.isLine_marked (fun text htext => hlines text (hunksBetween_content hhunk hrun htext)) line hline
  unfold patchLines
  split
  · simp
  · refine List.forall_mem_cons.mpr ⟨?_, List.forall_mem_cons.mpr ⟨?_, hhunks⟩⟩
    · exact hend.append (by simp [hbefore])
    · exact hend.append (by simp [hafter])

private theorem filter_hunkLines {hunk : List Run} {start : List Char}
    (h : ∀ run ∈ hunk, ∀ line ∈ run.content, start <+: line.toList) (side : Side) :
    ((hunkLines hunk).filter ((side.sign :: start).isPrefixOf ·.toList)).map String.toList =
      (hunk.flatMap (Run.lone side)).map (side.sign :: ·.toList) := by
  cases hunk with
  | nil => rfl
  | cons first rest =>
    have hheading : (side.sign :: start).isPrefixOf (heading first (first :: rest)).toList = false := by
      cases side <;> simp [heading, Side.sign, List.isPrefixOf]
    rw [hunkLines, List.filter_cons, hheading]
    simp only [Bool.false_eq_true, if_false, List.filter_flatMap, List.map_flatMap]
    exact List.flatMap_congr fun run hrun => Run.filter_marked (h run hrun) side

private theorem filter_patchLines {start : List Char} (hsign : ∃ c ∈ start.head?, c ≠ '-' ∧ c ≠ '+')
    (hstart : ∀ line ∈ xs ++ ys, start <+: line.toList) (side : Side) :
    ((patchLines n before after xs ys).filter ((side.sign :: start).isPrefixOf ·.toList)).map String.toList =
      ((Edit.script xs ys).filterMap (Edit.lone? side)).map (side.sign :: ·.toList) := by
  have hcontent : ∀ hunk ∈ hunksBetween n xs ys, ∀ run ∈ hunk, ∀ line ∈ run.content, start <+: line.toList :=
    fun hunk hhunk run hrun line hline => hstart line (hunksBetween_content hhunk hrun hline)
  rw [← hunksBetween_lone n]
  unfold patchLines
  split
  next h =>
    rw [h]
    rfl
  next =>
    obtain ⟨c, hc, hminus, hplus⟩ := hsign
    obtain ⟨rest, rfl⟩ := List.head?_eq_some_iff.mp hc
    have hbefore : (side.sign :: c :: rest).isPrefixOf ("--- " ++ before ++ "\n").toList = false := by
      cases side <;> simp [Side.sign, List.isPrefixOf, hminus]
    have hafter : (side.sign :: c :: rest).isPrefixOf ("+++ " ++ after ++ "\n").toList = false := by
      cases side <;> simp [Side.sign, List.isPrefixOf, hplus]
    rw [List.filter_cons, hbefore, List.filter_cons, hafter, List.flatten_eq_flatMap, List.flatMap_assoc]
    simp only [Bool.false_eq_true, if_false, List.filter_flatMap, List.map_flatMap, id]
    exact List.flatMap_congr fun hunk hhunk => by
      rw [filter_hunkLines (hcontent hunk hhunk), List.map_flatMap]

/-- A patch shows the lines that only one side has, in their order, behind the sign of the side. -/
theorem filter_lines_render (hbefore : '\n' ∉ before.toList) (hafter : '\n' ∉ after.toList) {start : List Char}
    (hsign : ∃ c ∈ start.head?, c ≠ '-' ∧ c ≠ '+') (hone : '\n' ∉ start)
    (hlines : ∀ line ∈ xs ++ ys, IsLine line ∧ start <+: line.toList) (side : Side) :
    (lines (render n before after xs ys).toList).filter ((side.sign :: start).isPrefixOf ·) =
      ((Edit.script xs ys).filterMap (Edit.lone? side)).map fun line => (side.sign :: line.toList).dropLast := by
  have hsigned : '\n' ∉ side.sign :: start := by
    cases side <;> simpa [Side.sign] using hone
  have hisLine := isLine_patchLines n hbefore hafter fun line hline => (hlines line hline).1
  rw [render_eq_join, filter_lines_join hisLine (List.cons_ne_nil _ _) hsigned,
    filter_patchLines n hsign fun line hline => (hlines line hline).2, List.map_map]
  rfl

end Rendered

end Patch
end WatchTrial.Text
