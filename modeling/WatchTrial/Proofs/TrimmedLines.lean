import WatchTrial.Text.Blank
import WatchTrial.Text.Lines
/-!
# Trimmed lines

Most texts of a device are read line by line, and of a line only what is left when blanks are taken off both of its
ends. So blanks around a line, a carriage return before its line feed among them, make no difference. A stream is
read through a buffer: a line beyond it ends the reading, and every line before that one is read on its own.
-/
namespace WatchTrial.Text

section Trimming

variable {p : Char → Bool} {cs lead tail word : List Char}

theorem dropEndWhile_prefix (p : Char → Bool) (cs : List Char) : dropEndWhile p cs <+: cs := by
  have hsuffix := List.dropWhile_suffix p (l := cs.reverse)
  rwa [← List.reverse_prefix, List.reverse_reverse] at hsuffix

theorem dropEndWhile_append_of_pos (h : ∀ c ∈ tail, p c = true) :
    dropEndWhile p (cs ++ tail) = dropEndWhile p cs := by
  have hreverse : ∀ c ∈ tail.reverse, p c = true := by simpa using h
  rw [dropEndWhile, List.reverse_append, List.dropWhile_append_of_pos hreverse, dropEndWhile]

private theorem dropEndWhile_word_append (hne : word ≠ []) (hword : ∀ c ∈ word, p c = false) (cs tail : List Char) :
    dropEndWhile p (cs ++ word ++ tail) = cs ++ word ++ dropEndWhile p tail := by
  obtain ⟨front, c, rfl⟩ : ∃ front c, word = front ++ [c] := ⟨_, _, (List.dropLast_concat_getLast hne).symm⟩
  have hc : p c = false := hword c (by simp)
  unfold dropEndWhile
  rw [List.reverse_append, List.dropWhile_append]
  split
  next hnone =>
    rw [List.isEmpty_iff.mp hnone]
    simp [hc]
  next => simp

theorem dropEndWhile_word (hne : word ≠ []) (hword : ∀ c ∈ word, p c = false) (cs : List Char) :
    dropEndWhile p (cs ++ word) = cs ++ word := by
  simpa [dropEndWhile] using dropEndWhile_word_append hne hword cs []

theorem trimChars_blanks_append (h : ∀ c ∈ lead, isBlank c = true) : trimChars (lead ++ cs) = trimChars cs := by
  rw [trimChars, List.dropWhile_append_of_pos h, trimChars]

private theorem trimChars_append_blanks (h : ∀ c ∈ tail, isBlank c = true) : trimChars (cs ++ tail) = trimChars cs := by
  unfold trimChars
  rw [List.dropWhile_append]
  split
  next hnone =>
    have htail : (tail ++ []).dropWhile isBlank = [] := List.dropWhile_append_of_pos h
    rw [List.append_nil] at htail
    rw [List.isEmpty_iff.mp hnone, htail]
  next => exact dropEndWhile_append_of_pos h

theorem trimChars_of_blanks (h : ∀ c ∈ cs, isBlank c = true) : trimChars cs = [] := by
  have hnil : trimChars ([] ++ cs) = trimChars [] := trimChars_append_blanks h
  rw [List.nil_append] at hnil
  exact hnil

theorem trimChars_word_append (hne : word ≠ []) (hword : ∀ c ∈ word, isBlank c = false) (tail : List Char) :
    trimChars (word ++ tail) = word ++ dropEndWhile isBlank tail := by
  have hstart : (word ++ tail).dropWhile isBlank = word ++ tail := by
    obtain ⟨c, rest, rfl⟩ := List.exists_cons_of_ne_nil hne
    have hc := hword c List.mem_cons_self
    rw [List.cons_append, List.dropWhile_cons_of_neg (by simp [hc])]
  rw [trimChars, hstart]
  exact dropEndWhile_word_append hne hword [] tail

theorem trimChars_word (hword : ∀ c ∈ word, isBlank c = false) : trimChars word = word := by
  by_cases hne : word = []
  · rw [hne]
    rfl
  · simpa [dropEndWhile] using trimChars_word_append hne hword []

theorem isBlank_of_isDigit {c : Char} (h : c.isDigit = true) : isBlank c = false := by
  obtain ⟨hlow, hhigh⟩ := Char.isDigit_iff_toNat.mp h
  have hzero : '0'.toNat = 48 := rfl
  have hnine : '9'.toNat = 57 := rfl
  simp [isBlank]
  omega

private theorem dropReturn_cases (line : List Char) : line = dropReturn line ∨ line = dropReturn line ++ ['\r'] := by
  unfold dropReturn
  split
  next front heq =>
    right
    rw [← List.reverse_cons, ← heq, List.reverse_reverse]
  next => exact .inl rfl

theorem trimChars_return (line : List Char) : trimChars (line ++ ['\r']) = trimChars line :=
  trimChars_append_blanks (List.forall_mem_singleton.mpr rfl)

theorem trimChars_dropReturn (line : List Char) : trimChars (dropReturn line) = trimChars line := by
  rcases dropReturn_cases line with heq | heq
  · rw [← heq]
  · rw [← trimChars_return, ← heq]

end Trimming

theorem split_induction {α : Type} [DecidableEq α] (sep : α) {P : List α → Prop} (last : ∀ line, sep ∉ line → P line)
    (above : ∀ line rest, sep ∉ line → P rest → P (line ++ sep :: rest)) (xs : List α) : P xs := by
  induction hlength : xs.length using Nat.strongRecOn generalizing xs with
  | ind n ih =>
    by_cases hsep : sep ∈ xs
    · obtain ⟨line, rest, rfl, hline⟩ := List.eq_append_cons_of_mem hsep
      have hshorter : rest.length < n := by
        simp only [List.length_append, List.length_cons] at hlength
        omega
      exact above line rest hline (ih rest.length hshorter rest rfl)
    · exact last xs hsep

/-- A text is its only line, or its first line with a text below it. -/
theorem line_induction {P : List Char → Prop} (last : ∀ line, '\n' ∉ line → P line)
    (above : ∀ line rest, '\n' ∉ line → P rest → P (line ++ '\n' :: rest)) (cs : List Char) : P cs :=
  split_induction '\n' last above cs

theorem lines_cons {line : List Char} (h : '\n' ∉ line) (rest : List Char) :
    lines (line ++ '\n' :: rest) = line :: lines rest := by
  rw [lines_append, lines_of_not_mem h, List.singleton_append]

theorem not_mem_of_mem_lines {cs line : List Char} (h : line ∈ lines cs) : '\n' ∉ line := by
  induction cs using line_induction with
  | last only honly =>
    rw [lines_of_not_mem honly, List.mem_singleton] at h
    rwa [h]
  | above first rest hfirst ih =>
    rw [lines_cons hfirst] at h
    rcases List.mem_cons.mp h with rfl | h
    · exact hfirst
    · exact ih h

section Scanning

variable {α : Type} {f : List Char → Option α} {pieces : List (List Char)} {line : List Char}

/-- The line goes into the buffer of a stream. -/
def Fits (line : List Char) : Prop := byteLength line < lineCapacity

instance : DecidablePred Fits := fun line => inferInstanceAs (Decidable (byteLength line < lineCapacity))

theorem fits_iff (line : List Char) : Fits line ↔ (String.ofList line).utf8ByteSize ≤ 65535 := by
  rw [Fits, byteLength_eq_utf8ByteSize, lineCapacity]
  omega

private theorem scanPieces_cons (hne : pieces ≠ []) (line : List Char) :
    scanPieces (line :: pieces) = if Fits line then
      ⟨dropReturn line :: (scanPieces pieces).lines, (scanPieces pieces).overflow⟩ else ⟨[], true⟩ := by
  obtain ⟨next, rest, rfl⟩ := List.exists_cons_of_ne_nil hne
  by_cases hfits : Fits line
  · simp [scanPieces, hfits, Nat.not_le.mpr hfits]
  · simp [scanPieces, hfits, Nat.not_lt.mp hfits]

private theorem scanPieces_singleton (line : List Char) :
    scanPieces [line] =
      if line = [] then ⟨[], false⟩ else if Fits line then ⟨[dropReturn line], false⟩ else ⟨[], true⟩ := by
  cases line with
  | nil => rfl
  | cons c cs =>
    by_cases hfits : Fits (c :: cs)
    · simp [scanPieces, hfits, Nat.not_le.mpr hfits]
    · simp [scanPieces, hfits, Nat.not_lt.mp hfits]

private theorem fits_nil : Fits [] := by decide

theorem scanPieces_overflow (pieces : List (List Char)) :
    (scanPieces pieces).overflow = true ↔ ∃ line ∈ pieces, ¬ Fits line := by
  induction pieces with
  | nil => simp [scanPieces]
  | cons line rest ih =>
    by_cases hrest : rest = []
    · subst hrest
      rw [scanPieces_singleton]
      by_cases hempty : line = []
      · simp [hempty, fits_nil]
      · by_cases hfits : Fits line <;> simp [hempty, hfits]
    · rw [scanPieces_cons hrest]
      by_cases hfits : Fits line <;> simp [hfits, ih]

/-- What is taken from lines one by one is taken from all lines before the first one that does not fit. -/
theorem filterMap_scanPieces (hempty : f [] = none) (hreturn : ∀ line, f (dropReturn line) = f line)
    (pieces : List (List Char)) :
    (scanPieces pieces).lines.filterMap f = (pieces.takeWhile (Fits ·)).filterMap f := by
  induction pieces with
  | nil => simp [scanPieces]
  | cons line rest ih =>
    by_cases hrest : rest = []
    · subst hrest
      rw [scanPieces_singleton]
      by_cases hline : line = []
      · simp [hline, fits_nil, hempty]
      · by_cases hfits : Fits line <;> simp [hline, hfits, List.filterMap_cons, hreturn]
    · rw [scanPieces_cons hrest]
      by_cases hfits : Fits line
      · simp [hfits, List.filterMap_cons, hreturn, ih]
      · simp [hfits]

end Scanning

end WatchTrial.Text
