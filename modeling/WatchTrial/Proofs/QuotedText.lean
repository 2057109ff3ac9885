import Mathlib.Tactic.Ring
import WatchTrial.Text.Quoted
import WatchTrial.Yaml.Token.Scalar
/-!
# Reading quoted text

A quoted text ends at the first quote that no backslash stands before, whatever the backslash escapes. What stands
before this quote gives the text back, escape by escape.
-/
namespace WatchTrial.Text

/-- What stands before the first quote that is not escaped, and what follows this quote. -/
def cutQuoted : List Char → Option (List Char × List Char)
  | [] => none
  | '"' :: rest => some ([], rest)
  | '\\' :: c :: rest => (cutQuoted rest).map (Prod.map ('\\' :: c :: ·) id)
  | c :: rest => (cutQuoted rest).map (Prod.map (c :: ·) id)

def unescape : List Char → Option (List Char)
  | [] => some []
  | '\\' :: letter :: rest =>
    match Yaml.escapeOf? letter with
    | some c => (unescape rest).map (c :: ·)
    | none => do
      let width ← Yaml.escapeWidth? letter
      let value ← Yaml.readHex width 0 rest
      let text ← unescape (rest.drop width)
      return Char.ofNat value :: text
  | c :: rest => if c = '\\' then none else (unescape rest).map (c :: ·)
termination_by cs => cs.length

/-- The text between the quotes that a list of characters starts with, and what follows them. -/
def readQuoted : List Char → Option (List Char × List Char)
  | '"' :: rest => (cutQuoted rest).bind fun cut => (unescape cut.1).map (·, cut.2)
  | _ => none

private theorem hexDigit_value {d : Nat} (h : d < 16) : Yaml.hexDigit? (hexDigit d) = some d := by
  revert d
  decide

private theorem hexDigit_ordinary {d : Nat} (h : d < 16) : hexDigit d ≠ '"' ∧ hexDigit d ≠ '\\' := by
  revert d
  decide

private theorem length_hexDigits (width n : Nat) : (hexDigits width n).length = width := by
  induction width with
  | zero => rfl
  | succ width ih => rw [hexDigits, List.length_cons, ih]

private theorem ordinary_of_mem_hexDigits {width n : Nat} {c : Char} (h : c ∈ hexDigits width n) :
    c ≠ '"' ∧ c ≠ '\\' := by
  induction width with
  | zero => cases h
  | succ width ih =>
    rcases List.mem_cons.mp h with rfl | h
    · exact hexDigit_ordinary (Nat.mod_lt _ (by decide))
    · exact ih h

private theorem readHex_hexDigits (width n acc : Nat) (rest : List Char) :
    Yaml.readHex width acc (hexDigits width n ++ rest) = some (acc * 16 ^ width + n % 16 ^ width) := by
  induction width generalizing acc with
  | zero => simp [Yaml.readHex, Nat.mod_one]
  | succ width ih =>
    have hdigits : hexDigits (width + 1) n = hexDigit (n / 16 ^ width % 16) :: hexDigits width n := rfl
    have hdigit := hexDigit_value (Nat.mod_lt (n / 16 ^ width) (by decide : 0 < 16))
    have hsplit : n % 16 ^ (width + 1) = n / 16 ^ width % 16 * 16 ^ width + n % 16 ^ width := by
      rw [Nat.pow_succ, Nat.mod_mul]
      ring
    calc Yaml.readHex (width + 1) acc (hexDigits (width + 1) n ++ rest)
      _ = Yaml.readHex width (acc * 16 + n / 16 ^ width % 16) (hexDigits width n ++ rest) := by
        rw [hdigits, List.cons_append]
        simp only [Yaml.readHex, hdigit]
      _ = some ((acc * 16 + n / 16 ^ width % 16) * 16 ^ width + n % 16 ^ width) := ih _
      _ = some (acc * 16 ^ (width + 1) + n % 16 ^ (width + 1)) := by
        rw [hsplit]
        congr 1
        ring

private theorem quoteChar_cases (c : Char) :
    (quoteChar c = [c] ∧ c ≠ '"' ∧ c ≠ '\\') ∨
    (∃ letter, quoteChar c = ['\\', letter] ∧ Yaml.escapeOf? letter = some c) ∨
    ∃ letter width, quoteChar c = '\\' :: letter :: hexDigits width c.toNat ∧
      Yaml.escapeOf? letter = none ∧ Yaml.escapeWidth? letter = some width ∧ c.toNat < 16 ^ width := by
  have hnamed {n : Nat} (hn : c.toNat = n) : Char.ofNat n = c := by rw [← hn, Char.ofNat_toNat]
  unfold quoteChar
  split
  next hquote => exact .inr (.inl ⟨'"', rfl, by rw [hquote]; rfl⟩)
  next hquote =>
    split
    next hslash => exact .inr (.inl ⟨'\\', rfl, by rw [hslash]; rfl⟩)
    next hslash =>
      split
      · exact .inl ⟨rfl, hquote, hslash⟩
      · split
        next hn => exact .inr (.inl ⟨'a', rfl, congrArg some (hnamed hn)⟩)
        next hn => exact .inr (.inl ⟨'b', rfl, congrArg some (hnamed hn)⟩)
        next hn => exact .inr (.inl ⟨'f', rfl, congrArg some (hnamed hn)⟩)
        next hn => exact .inr (.inl ⟨'n', rfl, congrArg some (hnamed hn)⟩)
        next hn => exact .inr (.inl ⟨'r', rfl, congrArg some (hnamed hn)⟩)
        next hn => exact .inr (.inl ⟨'t', rfl, congrArg some (hnamed hn)⟩)
        next hn => exact .inr (.inl ⟨'v', rfl, congrArg some (hnamed hn)⟩)
        next =>
          have hvalid : c.toNat < 0x110000 := by
            have := c.valid
            simp only [UInt32.isValidChar, Nat.isValidChar] at this
            simp only [Char.toNat]
            omega
          split
          next hcontrol => exact .inr (.inr ⟨'x', 2, rfl, rfl, rfl, by omega⟩)
          next =>
            split
            next hlow => exact .inr (.inr ⟨'u', 4, rfl, rfl, rfl, hlow⟩)
            next => exact .inr (.inr ⟨'U', 8, rfl, rfl, rfl, by omega⟩)

/-! ### Where a quoted text ends -/

private theorem cutQuoted_ordinary {c : Char} (hquote : c ≠ '"') (hslash : c ≠ '\\') (rest : List Char) :
    cutQuoted (c :: rest) = (cutQuoted rest).map (Prod.map (c :: ·) id) := by
  rw [cutQuoted.eq_def]
  split <;> simp_all

private theorem cutQuoted_ordinaries {cs : List Char} (h : ∀ c ∈ cs, c ≠ '"' ∧ c ≠ '\\') (rest : List Char) :
    cutQuoted (cs ++ rest) = (cutQuoted rest).map (Prod.map (cs ++ ·) id) := by
  induction cs with
  | nil =>
    rw [List.nil_append]
    cases cutQuoted rest <;> rfl
  | cons c cs ih =>
    have hc := h c List.mem_cons_self
    rw [List.cons_append, cutQuoted_ordinary hc.1 hc.2, ih fun d hd => h d (List.mem_cons_of_mem c hd),
      Option.map_map]
    rfl

private theorem eq_append_of_cutQuoted {cs : List Char} {cut : List Char × List Char} (h : cutQuoted cs = some cut) :
    cs = cut.1 ++ '"' :: cut.2 := by
  fun_induction cutQuoted cs generalizing cut with
  | case1 => cases h
  | case2 rest =>
    cases h
    rfl
  | case3 c rest ih =>
    obtain ⟨inner, hinner, rfl⟩ := Option.map_eq_some_iff.mp h
    rw [ih hinner]
    rfl
  | case4 c rest _ _ ih =>
    obtain ⟨inner, hinner, rfl⟩ := Option.map_eq_some_iff.mp h
    rw [ih hinner]
    rfl

theorem length_lt_of_readQuoted {cs : List Char} {read : List Char × List Char} (h : readQuoted cs = some read) :
    read.2.length < cs.length := by
  unfold readQuoted at h
  split at h
  next rest =>
    obtain ⟨cut, hcut, hread⟩ := Option.bind_eq_some_iff.mp h
    obtain ⟨text, -, rfl⟩ := Option.map_eq_some_iff.mp hread
    rw [eq_append_of_cutQuoted hcut]
    simp only [List.length_cons, List.length_append]
    omega
  next => cases h

/-- No character ends the quoted text that it is written in. -/
theorem cutQuoted_quoteChar (c : Char) (rest : List Char) :
    cutQuoted (quoteChar c ++ rest) = (cutQuoted rest).map (Prod.map (quoteChar c ++ ·) id) := by
  have hescaped (letter : Char) (digits : List Char) (hdigits : ∀ d ∈ digits, d ≠ '"' ∧ d ≠ '\\') :
      cutQuoted ('\\' :: letter :: digits ++ rest) =
        (cutQuoted rest).map (Prod.map ('\\' :: letter :: digits ++ ·) id) := by
    rw [List.cons_append, List.cons_append, cutQuoted, cutQuoted_ordinaries hdigits, Option.map_map]
    rfl
  rcases quoteChar_cases c with ⟨heq, hquote, hslash⟩ | ⟨letter, heq, -⟩ | ⟨letter, width, heq, -⟩ <;> rw [heq]
  · exact cutQuoted_ordinary hquote hslash rest
  · exact hescaped letter [] (by simp)
  · exact hescaped letter _ fun d hd => ordinary_of_mem_hexDigits hd

private theorem cutQuoted_quoted (cs rest : List Char) :
    cutQuoted (cs.flatMap quoteChar ++ '"' :: rest) = some (cs.flatMap quoteChar, rest) := by
  induction cs with
  | nil => rfl
  | cons c cs ih => rw [List.flatMap_cons, List.append_assoc, cutQuoted_quoteChar, ih]; rfl

/-! ### What a quoted text stands for -/

private theorem unescape_quoteChar (c : Char) (rest : List Char) :
    unescape (quoteChar c ++ rest) = (unescape rest).map (c :: ·) := by
  rcases quoteChar_cases c with ⟨heq, -, hslash⟩ | ⟨letter, heq, hletter⟩ | ⟨letter, width, heq, hnone, hwidth, hlt⟩
  · rw [heq, List.singleton_append, unescape.eq_def]
    split <;> simp_all
  · rw [heq, List.cons_append, List.singleton_append, unescape]
    simp only [hletter]
  · have hvalue : Yaml.readHex width 0 (hexDigits width c.toNat ++ rest) = some c.toNat := by
      rw [readHex_hexDigits, Nat.mod_eq_of_lt hlt, Nat.zero_mul, Nat.zero_add]
    have hrest : (hexDigits width c.toNat ++ rest).drop width = rest :=
      List.drop_left' (length_hexDigits width c.toNat)
    rw [heq, List.cons_append, List.cons_append, unescape]
    simp only [hnone, hwidth, hvalue, hrest, Option.bind_eq_bind, Option.bind_some, Char.ofNat_toNat]
    cases unescape rest <;> rfl

private theorem unescape_quoted (cs : List Char) : unescape (cs.flatMap quoteChar) = some cs := by
  induction cs with
  | nil => rw [List.flatMap_nil, unescape]
  | cons c cs ih => rw [List.flatMap_cons, unescape_quoteChar, ih]; rfl

/-- A quoted text is read back, and what follows it is left alone. -/
theorem readQuoted_quote (s : String) (rest : List Char) :
    readQuoted ((quote s).toList ++ rest) = some (s.toList, rest) := by
  have hquote : (quote s).toList ++ rest = '"' :: (s.toList.flatMap quoteChar ++ '"' :: rest) := by
    simp [quote, quoteChars]
  rw [hquote, readQuoted, cutQuoted_quoted, Option.bind_some, unescape_quoted, Option.map_some]

end WatchTrial.Text
