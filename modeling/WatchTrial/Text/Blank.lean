/-!
# White space

The blanks are the characters of the Unicode property `White_Space`. Trimming and field splitting
work on lists of characters; the functions on `String` are wrappers around them.
-/
namespace WatchTrial.Text

def isBlank (c : Char) : Bool :=
  let n := c.toNat
  n == 0x20 || (0x09 ≤ n && n ≤ 0x0d) || n == 0x85 || n == 0xa0 || n == 0x1680 ||
    (0x2000 ≤ n && n ≤ 0x200a) || n == 0x2028 || n == 0x2029 || n == 0x202f ||
    n == 0x205f || n == 0x3000

/-- Removes the longest trailing run of characters that satisfy `p`. -/
def dropEndWhile (p : Char → Bool) (cs : List Char) : List Char :=
  (cs.reverse.dropWhile p).reverse

/-- Removes leading and trailing blanks. -/
def trimChars (cs : List Char) : List Char :=
  dropEndWhile isBlank (cs.dropWhile isBlank)

def trim (s : String) : String :=
  String.ofList (trimChars s.toList)

/-- The maximal runs of characters that are not blank, from left to right. -/
def fieldsOf (cs : List Char) : List (List Char) :=
  (List.splitOnP isBlank cs).filter (! ·.isEmpty)

/-- The text up to the first `sep`, and the text after it when there is one. -/
def cut (sep : Char) (cs : List Char) : List Char × Option (List Char) :=
  match cs.dropWhile (· != sep) with
  | [] => (cs, none)
  | _ :: rest => (cs.takeWhile (· != sep), some rest)

theorem bne_of_not_mem {sep : Char} {cs : List Char} (h : sep ∉ cs) : ∀ c ∈ cs, (c != sep) = true := by
  intro c hc
  rw [bne_iff_ne]
  intro heq
  exact h (heq ▸ hc)

/-- A text is divided at the first of its separators. -/
theorem span_append {sep : Char} {before : List Char} (h : sep ∉ before) (rest : List Char) :
    (before ++ sep :: rest).takeWhile (· != sep) = before ∧
      (before ++ sep :: rest).dropWhile (· != sep) = sep :: rest := by
  rw [List.takeWhile_append_of_pos (bne_of_not_mem h), List.dropWhile_append_of_pos (bne_of_not_mem h)]
  simp

theorem span_of_not_mem {sep : Char} {cs : List Char} (h : sep ∉ cs) :
    cs.takeWhile (· != sep) = cs ∧ cs.dropWhile (· != sep) = [] := by
  have hnone : (cs ++ []).dropWhile (· != sep) = [].dropWhile (· != sep) :=
    List.dropWhile_append_of_pos (bne_of_not_mem h)
  have hall : (cs ++ []).takeWhile (· != sep) = cs ++ [].takeWhile (· != sep) :=
    List.takeWhile_append_of_pos (bne_of_not_mem h)
  rw [List.append_nil] at hnone hall
  rw [hnone, hall]
  simp

theorem cut_append {sep : Char} {before : List Char} (h : sep ∉ before) (rest : List Char) :
    cut sep (before ++ sep :: rest) = (before, some rest) := by
  simp only [cut, span_append h]

theorem cut_of_not_mem {sep : Char} {cs : List Char} (h : sep ∉ cs) : cut sep cs = (cs, none) := by
  simp only [cut, span_of_not_mem h]

theorem length_lt_of_cut {sep : Char} {cs before rest : List Char}
    (h : cut sep cs = (before, some rest)) : rest.length < cs.length := by
  unfold cut at h
  split at h
  · simp at h
  · next _ tail hd =>
    have hle := (List.dropWhile_suffix (· != sep) (l := cs)).length_le
    simp only [Prod.mk.injEq, Option.some.injEq] at h
    rw [hd, List.length_cons, h.2] at hle
    omega

/-- The rest of a text that starts with `start`. -/
def afterStart (start : List Char) (cs : List Char) : Option (List Char) :=
  if start.isPrefixOf cs then some (cs.drop start.length) else none

theorem afterStart_append (start rest : List Char) : afterStart start (start ++ rest) = some rest := by
  simp [afterStart]

theorem eq_append_of_afterStart {start cs rest : List Char} (h : afterStart start cs = some rest) :
    cs = start ++ rest := by
  unfold afterStart at h
  split at h
  next hstart =>
    obtain ⟨rest', rfl⟩ := List.isPrefixOf_iff_prefix.mp hstart
    rw [List.drop_left] at h
    rw [Option.some.inj h]
  next => cases h

/-- The text without a final `ending`, or the whole text when it does not end so. -/
def dropEnding (ending : List Char) (cs : List Char) : List Char :=
  if ending.isSuffixOf cs then cs.take (cs.length - ending.length) else cs

theorem dropEnding_append (before ending : List Char) : dropEnding ending (before ++ ending) = before := by
  have hsuffix : ending.isSuffixOf (before ++ ending) = true :=
    List.isSuffixOf_iff_suffix.mpr (List.suffix_append before ending)
  rw [dropEnding, if_pos hsuffix, List.length_append, Nat.add_sub_cancel, List.take_left]

/-- Whether `part` occurs somewhere in a text. -/
def occursIn (part : List Char) : List Char → Bool
  | [] => part.isEmpty
  | c :: rest => part.isPrefixOf (c :: rest) || occursIn part rest

end WatchTrial.Text
