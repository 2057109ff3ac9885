import WatchTrial.Device.DisplaySize
import WatchTrial.Proofs.Decimals
import WatchTrial.Proofs.TrimmedLines
/-!
# Display sizes as they are read

A device says its display size on a line of its own, after words that tell a physical from an override size. Of each
kind the last line counts, and the override size wins unless it is empty. What counts is a size just when it is two
decimals with an `x` between them, both positive and of 64 bits; these numbers are read, and no others.
-/
namespace WatchTrial.DisplaySize

def physicalWords : String := "Physical size:"

def overrideWords : String := "Override size:"

/-- What a line says after the words that it starts with. Blanks around it and around the words do not count. -/
def sizeAfter (words : String) (line : List Char) : Option (List Char) :=
  (Text.afterStart words.toList (Text.trimChars line)).map Text.trimChars

/-- What the last line with these words says after them, or nothing. -/
def lastSize (words answer : String) : List Char :=
  ((Text.lines answer.toList).filterMap (sizeAfter words)).getLast?.getD []

/-- What an answer says about the size of the display. -/
def sizeText (answer : String) : List Char :=
  if lastSize overrideWords answer = [] then lastSize physicalWords answer else lastSize overrideWords answer

private theorem sizeAfter_disjoint (line : List Char) :
    sizeAfter physicalWords line = none ∨ sizeAfter overrideWords line = none := by
  by_cases hphysical : sizeAfter physicalWords line = none
  · exact .inl hphysical
  · obtain ⟨rest, hrest⟩ := Option.ne_none_iff_exists'.mp (mt Option.map_eq_none_iff.mpr hphysical)
    right
    rw [sizeAfter, Text.eq_append_of_afterStart hrest]
    rfl

theorem step_eq (named : Named) (line : List Char) :
    named.step line = ⟨(sizeAfter physicalWords line).getD named.physical,
      (sizeAfter overrideWords line).getD named.override⟩ := by
  have hdisjoint := sizeAfter_disjoint line
  simp only [sizeAfter, physicalWords, overrideWords, Named.step] at hdisjoint ⊢
  cases hphysical : Text.afterStart "Physical size:".toList (Text.trimChars line) with
  | some size =>
    rw [hphysical] at hdisjoint
    rw [hdisjoint.resolve_left (by simp)]
    rfl
  | none => cases Text.afterStart "Override size:".toList (Text.trimChars line) <;> rfl

private theorem foldl_step (named : Named) (lines : List (List Char)) :
    lines.foldl Named.step named =
      ⟨(lines.filterMap (sizeAfter physicalWords)).getLast?.getD named.physical,
        (lines.filterMap (sizeAfter overrideWords)).getLast?.getD named.override⟩ := by
  induction lines generalizing named with
  | nil => rfl
  | cons line rest ih =>
    rw [List.foldl_cons, ih, step_eq]
    cases hphysical : sizeAfter physicalWords line <;> cases hoverride : sizeAfter overrideWords line <;>
      simp [hphysical, hoverride, List.getLast?_cons]

private theorem effective_named (answer : String) : (named answer.toList).effective = sizeText answer := by
  rw [named, foldl_step]
  simp only [Named.effective, List.isEmpty_iff]
  rfl

section Pairs

variable {size width height : List Char} {s : DisplaySize} {answer : String}

private theorem readPair_append (hwidth : 'x' ∉ width) (height : List Char) :
    readPair (width ++ 'x' :: height) = .ok s ↔ Text.IsDecimal width s.width.toInt ∧
      Text.IsDecimal height s.height.toInt ∧ 0 < s.width.toInt ∧ 0 < s.height.toInt := by
  rw [← Text.readInt64_ok_iff, ← Text.readInt64_ok_iff, readPair, Text.cut_append hwidth]
  dsimp only
  cases Text.readInt64 width with
  | error why => simp
  | ok w =>
    cases Text.readInt64 height with
    | error why => simp
    | ok h =>
      obtain ⟨sw, sh⟩ := s
      simp only [Int64.le_iff_toInt_le, Int64.toInt_zero, Except.ok.injEq]
      by_cases hpositive : w.toInt ≤ 0 ∨ h.toInt ≤ 0
      · rw [if_pos hpositive]
        refine iff_of_false (by simp) ?_
        rintro ⟨rfl, rfl, hw, hh⟩
        omega
      · rw [if_neg hpositive, Except.ok.injEq, DisplaySize.mk.injEq]
        constructor
        · rintro ⟨rfl, rfl⟩
          refine ⟨rfl, rfl, ?_, ?_⟩ <;> omega
        · rintro ⟨rfl, rfl, -, -⟩
          exact ⟨rfl, rfl⟩

private theorem readPair_error (h : 'x' ∉ size) : ∃ why, readPair size = .error why := by
  rw [readPair, Text.cut_of_not_mem h]
  exact ⟨_, rfl⟩

/-- A size is read from what the answer says just as from a size that stands alone. -/
theorem read_ok_iff : read answer = .ok s ↔ readPair (sizeText answer) = .ok s := by
  unfold read
  rw [effective_named]
  split
  next hempty =>
    rw [hempty]
    obtain ⟨why, hwhy⟩ := readPair_error (List.not_mem_nil : 'x' ∉ [])
    simp [hwhy]
  next => rfl

theorem read_ok_iff_decimals : read answer = .ok s ↔ ∃ width height, sizeText answer = width ++ 'x' :: height ∧
    'x' ∉ width ∧ Text.IsDecimal width s.width.toInt ∧ Text.IsDecimal height s.height.toInt ∧
      0 < s.width.toInt ∧ 0 < s.height.toInt := by
  rw [read_ok_iff]
  constructor
  · intro h
    by_cases hx : 'x' ∈ sizeText answer
    · obtain ⟨width, height, heq, hwidth⟩ := List.eq_append_cons_of_mem hx
      rw [heq, readPair_append hwidth] at h
      exact ⟨width, height, heq, hwidth, h⟩
    · obtain ⟨why, hwhy⟩ := readPair_error hx
      cases hwhy.symm.trans h
  · rintro ⟨width, height, heq, hwidth, h⟩
    rw [heq]
    exact (readPair_append hwidth height).mpr h

end Pairs

section Written

variable {words answer : String} {w h : Nat}

/-- Two numbers as a size. -/
def writtenSize (w h : Nat) : List Char := (toString w ++ "x" ++ toString h).toList

def sizeLine (words : String) (w h : Nat) : List Char := words.toList ++ ' ' :: writtenSize w h

private theorem isDigit_of_mem_toString {n : Nat} {c : Char} (hc : c ∈ (toString n).toList) : c.isDigit = true :=
  (Text.isNumeral_toString n).1.2 c hc

private theorem not_isBlank_of_mem_writtenSize {c : Char} (hc : c ∈ writtenSize w h) : Text.isBlank c = false := by
  simp only [writtenSize, String.toList_append, List.mem_append] at hc
  rcases hc with (hc | hc) | hc
  · exact Text.isBlank_of_isDigit (isDigit_of_mem_toString hc)
  · obtain rfl : c = 'x' := by simpa using hc
    decide
  · exact Text.isBlank_of_isDigit (isDigit_of_mem_toString hc)

private theorem writtenSize_ne_nil (w h : Nat) : writtenSize w h ≠ [] := by simp [writtenSize]

private theorem trimChars_sizeLine (hwords : words ∈ [physicalWords, overrideWords]) (w h : Nat) :
    Text.trimChars (sizeLine words w h) = sizeLine words w h := by
  have hend := Text.dropEndWhile_word (writtenSize_ne_nil w h) fun _ => not_isBlank_of_mem_writtenSize
  have hstart : (sizeLine words w h).dropWhile Text.isBlank = sizeLine words w h := by
    simp only [List.mem_cons, List.not_mem_nil, or_false] at hwords
    rcases hwords with rfl | rfl <;> rfl
  rw [Text.trimChars, hstart, sizeLine, ← List.singleton_append, ← List.append_assoc]
  exact hend _

private theorem sizeAfter_sizeLine (hwords : words ∈ [physicalWords, overrideWords]) (w h : Nat) :
    sizeAfter words (sizeLine words w h) = some (writtenSize w h) := by
  have hblank : ∀ c ∈ [' '], Text.isBlank c = true := List.forall_mem_singleton.mpr rfl
  rw [sizeAfter, trimChars_sizeLine hwords, sizeLine, Text.afterStart_append, Option.map_some,
    ← List.singleton_append, Text.trimChars_blanks_append hblank,
    Text.trimChars_word fun _ => not_isBlank_of_mem_writtenSize]

/-- A line says nothing about the size. -/
def SaysNothing (line : List Char) : Prop :=
  ∀ words ∈ [physicalWords, overrideWords], ¬ words.toList <+: Text.trimChars line

instance : DecidablePred SaysNothing := fun line =>
  inferInstanceAs (Decidable (∀ words ∈ [physicalWords, overrideWords], ¬ words.toList <+: Text.trimChars line))

private theorem sizeAfter_of_saysNothing {line : List Char} (h : SaysNothing line)
    (hwords : words ∈ [physicalWords, overrideWords]) : sizeAfter words line = none := by
  have hstart : words.toList.isPrefixOf (Text.trimChars line) = false := by
    rw [Bool.eq_false_iff, Ne, List.isPrefixOf_iff_prefix]
    exact h words hwords
  simp [sizeAfter, Text.afterStart, hstart]

private theorem sizeText_of_line (hwords : words ∈ [physicalWords, overrideWords]) {before after : List (List Char)}
    (hlines : Text.lines answer.toList = before ++ sizeLine words w h :: after)
    (hothers : ∀ line ∈ before ++ after, SaysNothing line) : sizeText answer = writtenSize w h := by
  have hnone {kind : String} (hkind : kind ∈ [physicalWords, overrideWords]) :
      before.filterMap (sizeAfter kind) = [] ∧ after.filterMap (sizeAfter kind) = [] := by
    simp only [List.filterMap_eq_nil_iff]
    exact ⟨fun line hline => sizeAfter_of_saysNothing (hothers line (List.mem_append_left _ hline)) hkind,
      fun line hline => sizeAfter_of_saysNothing (hothers line (List.mem_append_right _ hline)) hkind⟩
  have hlast {kind : String} (hkind : kind ∈ [physicalWords, overrideWords]) :
      lastSize kind answer = (sizeAfter kind (sizeLine words w h)).getD [] := by
    obtain ⟨hbefore, hafter⟩ := hnone hkind
    rw [lastSize, hlines, List.filterMap_append, hbefore, List.nil_append]
    cases hline : sizeAfter kind (sizeLine words w h) <;> simp [hline, hafter]
  have hthis := sizeAfter_sizeLine hwords w h
  have hdisjoint := sizeAfter_disjoint (sizeLine words w h)
  have hne := writtenSize_ne_nil w h
  unfold sizeText
  rw [hlast (List.mem_cons_self : physicalWords ∈ _), hlast (by simp : overrideWords ∈ _)]
  simp only [List.mem_cons, List.not_mem_nil, or_false] at hwords
  rcases hwords with rfl | rfl
  · rw [hthis] at hdisjoint ⊢
    rw [hdisjoint.resolve_left (by simp)]
    simp
  · rw [hthis]
    simp [hne]

private theorem read_of_line (hwords : words ∈ [physicalWords, overrideWords]) {before after : List (List Char)}
    (hlines : Text.lines answer.toList = before ++ sizeLine words w h :: after)
    (hothers : ∀ line ∈ before ++ after, SaysNothing line)
    (hw : 0 < w ∧ Fits64 w) (hh : 0 < h ∧ Fits64 h) :
    ∃ size, read answer = .ok size ∧ size.width.toInt = w ∧ size.height.toInt = h := by
  refine ⟨⟨Int64.ofInt w, Int64.ofInt h⟩, ?_, hw.2.toInt_ofInt, hh.2.toInt_ofInt⟩
  rw [read_ok_iff_decimals]
  refine ⟨(toString w).toList, (toString h).toList, ?_, ?_, ?_⟩
  · rw [sizeText_of_line hwords hlines hothers]
    simp [writtenSize]
  · intro hx
    exact absurd (isDigit_of_mem_toString hx) (by decide)
  · rw [hw.2.toInt_ofInt, hh.2.toInt_ofInt]
    exact ⟨Text.isDecimal_toString w, Text.isDecimal_toString h, Int.natCast_pos.mpr hw.1, Int.natCast_pos.mpr hh.1⟩

end Written

/-- A size is read from an answer just when what the answer says about it is two decimals around the first `x`, of
positive numbers of 64 bits, and then it is these numbers. So no side of a size is less than one, a number beyond
64 bits is a fault, and every size can be said by a line of either kind among lines that say nothing about it. -/
theorem size_read_exactly (answer : String) :
    (∀ size, read answer = .ok size ↔ ∃ width height, sizeText answer = width ++ 'x' :: height ∧ 'x' ∉ width ∧
      Text.IsDecimal width size.width.toInt ∧ Text.IsDecimal height size.height.toInt ∧
        0 < size.width.toInt ∧ 0 < size.height.toInt) ∧
    (∀ size, read answer = .ok size → 1 ≤ size.width.toInt ∧ 1 ≤ size.height.toInt) ∧
    (∀ width height n, sizeText answer = width ++ 'x' :: height → 'x' ∉ width →
      (Text.IsDecimal width n ∨ Text.IsDecimal height n) → ¬ Fits64 n → ∃ fault, read answer = .error fault) ∧
    (∀ words ∈ [physicalWords, overrideWords], ∀ (before after : List (List Char)) (w h : Nat),
      Text.lines answer.toList = before ++ sizeLine words w h :: after →
      (∀ line ∈ before ++ after, SaysNothing line) → 0 < w ∧ Fits64 w → 0 < h ∧ Fits64 h →
      ∃ size, read answer = .ok size ∧ size.width.toInt = w ∧ size.height.toInt = h) := by
  refine ⟨fun size => read_ok_iff_decimals, ?_, ?_, ?_⟩
  · intro size hsize
    obtain ⟨-, -, -, -, -, -, hpositive⟩ := read_ok_iff_decimals.mp hsize
    exact hpositive
  · intro width height n heq hwidth hdecimal hbeyond
    cases hread : read answer with
    | error fault => exact ⟨fault, rfl⟩
    | ok size =>
      rw [read_ok_iff, heq, readPair_append hwidth] at hread
      rcases hdecimal with hdecimal | hdecimal
      · exact absurd (hdecimal.fits64 hread.1) hbeyond
      · exact absurd (hdecimal.fits64 hread.2.1) hbeyond
  · intro words hwords before after w h hlines hothers hw hh
    exact read_of_line hwords hlines hothers hw hh

theorem size_read_exactly_widest :
    (∃ size, read "\r\nOverride size: 9223372036854775807x1\nPhysical: no" = .ok size ∧
      size.width.toInt = 9223372036854775807 ∧ size.height.toInt = 1) ∧
    ∃ fault, read "Physical size: 1x1\n Physical size: 9223372036854775808x1 \n" = .error fault := by
  have hbeyond : Text.IsDecimal "9223372036854775808".toList 9223372036854775808 := by
    have hdigits : Text.IsNumeral "9223372036854775808".toList := by decide
    have hvalue : Text.numeralValue "9223372036854775808".toList = 9223372036854775808 := by decide
    have hdecimal := Text.IsDecimal.unsigned hdigits
    rwa [hvalue] at hdecimal
  constructor
  · exact (size_read_exactly _).2.2.2 overrideWords (by decide) ["\r".toList] ["Physical: no".toList]
      9223372036854775807 1 (by decide) (by decide) (by decide) (by decide)
  · exact (size_read_exactly _).2.2.1 "9223372036854775808".toList "1".toList 9223372036854775808
      (by decide) (by decide) (.inl hbeyond) (by decide)

end WatchTrial.DisplaySize
