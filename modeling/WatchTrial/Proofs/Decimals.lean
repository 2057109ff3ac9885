import WatchTrial.Text.Decimal
/-!
# Decimals and their numbers

A decimal is an optional sign before at least one digit, and stands for exactly one whole number. It is read if that
number has 64 bits, with its own value and no other: a number beyond them is refused, however many digits it has.
-/
namespace WatchTrial

/-- A whole number is in the range of 64 bits. -/
def Fits64 (n : Int) : Prop := Int64.minValue.toInt ≤ n ∧ n ≤ Int64.maxValue.toInt

instance : DecidablePred Fits64 := fun n =>
  inferInstanceAs (Decidable (Int64.minValue.toInt ≤ n ∧ n ≤ Int64.maxValue.toInt))

theorem Fits64.toInt (n : Int64) : Fits64 n.toInt := ⟨n.minValue_le_toInt, n.toInt_le⟩

private theorem fits64_iff {n : Int} : Fits64 n ↔ -9223372036854775808 ≤ n ∧ n ≤ 9223372036854775807 := by
  rw [Fits64, Int64.toInt_minValue, Int64.toInt_maxValue]
  exact Iff.rfl

theorem Fits64.toInt_ofInt {n : Int} (h : Fits64 n) : (Int64.ofInt n).toInt = n := by
  obtain ⟨hmin, hmax⟩ := fits64_iff.mp h
  apply Int64.toInt_ofInt_of_le <;> omega

namespace Text

def IsNumeral (digits : List Char) : Prop := digits ≠ [] ∧ ∀ c ∈ digits, c.isDigit = true

instance : DecidablePred IsNumeral := fun digits =>
  decidable_of_iff (digits ≠ [] ∧ digits.all Char.isDigit = true) (by rw [List.all_eq_true, IsNumeral])

def numeralValue (digits : List Char) : Nat := Nat.ofDigitChars 10 digits 0

/-- A text is a decimal of a number. -/
inductive IsDecimal : List Char → Int → Prop
  | unsigned {digits : List Char} : IsNumeral digits → IsDecimal digits (numeralValue digits)
  | plus {digits : List Char} : IsNumeral digits → IsDecimal ('+' :: digits) (numeralValue digits)
  | minus {digits : List Char} : IsNumeral digits → IsDecimal ('-' :: digits) (-numeralValue digits)

section Digits

variable {c : Char} {digits : List Char} {n acc : Nat}

private theorem digitValue?_eq (c : Char) :
    digitValue? c = if c.isDigit = true then some (c.toNat - '0'.toNat) else none := by
  have hdigit : c.isDigit = true ↔ '0' ≤ c ∧ c ≤ '9' := by simp [Char.isDigit, Char.le_def]
  simp [digitValue?, hdigit]

private theorem le_ofDigitChars (digits : List Char) (acc : Nat) : acc ≤ Nat.ofDigitChars 10 digits acc := by
  induction digits generalizing acc with
  | nil => exact Nat.le_refl acc
  | cons c rest ih =>
    rw [Nat.ofDigitChars_cons]
    have hmore := ih (10 * acc + (c.toNat - '0'.toNat))
    omega

/-- Digits are read one by one; what they stand for only grows, so it is refused as soon as it has become too large. -/
theorem readDigits_ok_iff (hacc : acc < Nat.pow 2 64) : readDigits acc digits = .ok n ↔
    (∀ c ∈ digits, c.isDigit = true) ∧ n = Nat.ofDigitChars 10 digits acc ∧ n < Nat.pow 2 64 := by
  induction digits generalizing acc with
  | nil =>
    simp only [readDigits, Except.ok.injEq, Nat.ofDigitChars_nil, List.not_mem_nil, false_imp_iff, implies_true,
      true_and]
    constructor
    · rintro rfl
      exact ⟨rfl, hacc⟩
    · exact fun h => h.1.symm
  | cons c rest ih =>
    rw [readDigits, digitValue?_eq, Nat.ofDigitChars_cons, List.forall_mem_cons]
    by_cases hdigit : c.isDigit = true
    · simp only [hdigit, if_true, true_and, Nat.mul_comm acc 10]
      by_cases hlarge : Nat.pow 2 64 ≤ 10 * acc + (c.toNat - '0'.toNat)
      · have hgrows := le_ofDigitChars rest (10 * acc + (c.toNat - '0'.toNat))
        rw [if_pos hlarge]
        constructor
        · intro h
          cases h
        · rintro ⟨-, rfl, hsmall⟩
          omega
      · rw [if_neg hlarge, ih (Nat.not_le.mp hlarge)]
    · simp [hdigit]

end Digits

section Decimals

variable {cs digits : List Char} {m n : Int} {v : Int64}

private theorem IsNumeral.ne_sign (h : IsNumeral digits) (rest : List Char) :
    digits ≠ '-' :: rest ∧ digits ≠ '+' :: rest := by
  constructor <;> rintro rfl
  · exact absurd (h.2 '-' List.mem_cons_self) (by decide)
  · exact absurd (h.2 '+' List.mem_cons_self) (by decide)

private theorem splitSign_numeral (h : IsNumeral digits) : splitSign digits = (false, digits) := by
  unfold splitSign
  split
  next rest => exact absurd rfl (h.ne_sign rest).1
  next rest => exact absurd rfl (h.ne_sign rest).2
  next => rfl

private theorem isDecimal_iff : IsDecimal cs n ↔ IsNumeral (splitSign cs).2 ∧
    n = if (splitSign cs).1 then -(numeralValue (splitSign cs).2 : Int) else numeralValue (splitSign cs).2 := by
  constructor
  · intro h
    cases h with
    | unsigned hdigits =>
      rw [splitSign_numeral hdigits]
      exact ⟨hdigits, rfl⟩
    | plus hdigits => exact ⟨hdigits, rfl⟩
    | minus hdigits => exact ⟨hdigits, rfl⟩
  · rintro ⟨hdigits, rfl⟩
    revert hdigits
    unfold splitSign
    split <;> intro hdigits
    · exact .minus hdigits
    · exact .plus hdigits
    · exact .unsigned hdigits

theorem IsDecimal.unique (hm : IsDecimal cs m) (hn : IsDecimal cs n) : m = n := by
  rw [(isDecimal_iff.mp hm).2, (isDecimal_iff.mp hn).2]

private theorem signed64_eq (negative : Bool) (magnitude : Nat) :
    let value : Int := if negative then -(magnitude : Int) else magnitude
    signed64 negative magnitude = if Fits64 value then .ok (Int64.ofInt value) else .error .outOfRange := by
  have hpow : Nat.pow 2 63 = 9223372036854775808 := rfl
  simp only [signed64, fits64_iff, hpow]
  cases negative with
  | true =>
    by_cases hlarge : 9223372036854775808 < magnitude
    · simp only [if_true, if_pos hlarge]
      rw [if_neg (by omega)]
    · simp only [if_true, if_neg hlarge]
      rw [if_pos (by omega)]
  | false =>
    by_cases hlarge : 9223372036854775808 ≤ magnitude
    · simp only [Bool.false_eq_true, if_false, if_pos hlarge]
      rw [if_neg (by omega)]
    · simp only [Bool.false_eq_true, if_false, if_neg hlarge]
      rw [if_pos (by omega)]

private theorem signed64_ok_iff {negative : Bool} {magnitude : Nat} : signed64 negative magnitude = .ok v ↔
    v.toInt = if negative then -(magnitude : Int) else magnitude := by
  rw [signed64_eq]
  generalize (if negative then -(magnitude : Int) else magnitude) = value
  by_cases hfits : Fits64 value
  · rw [if_pos hfits, Except.ok.injEq, ← Int64.toInt_inj, hfits.toInt_ofInt, eq_comm]
  · rw [if_neg hfits]
    refine iff_of_false (by simp) ?_
    rintro rfl
    exact hfits (Fits64.toInt v)

/-- Reading gives exactly the number of 64 bits that a text is a decimal of. -/
theorem readInt64_ok_iff : readInt64 cs = .ok v ↔ IsDecimal cs v.toInt := by
  rw [isDecimal_iff]
  unfold readInt64
  rcases splitSign cs with ⟨negative, digits⟩
  cases digits with
  | nil => simp [IsNumeral]
  | cons c rest =>
    have hpow : Nat.pow 2 64 = 18446744073709551616 := rfl
    change (readDigits 0 (c :: rest) >>= signed64 negative) = .ok v ↔ _
    cases hread : readDigits 0 (c :: rest) with
    | error why =>
      refine iff_of_false (fun h => by cases h) ?_
      rintro ⟨hdigits, hvalue⟩
      -- the number has 64 bits, so its digits stand for less than what is refused
      have hsmall : numeralValue (c :: rest) < Nat.pow 2 64 := by
        have hfits := fits64_iff.mp (Fits64.toInt v)
        rw [hpow]
        dsimp only at hvalue
        split at hvalue <;> omega
      cases hread.symm.trans ((readDigits_ok_iff (by decide)).mpr ⟨hdigits.2, rfl, hsmall⟩)
    | ok magnitude =>
      obtain ⟨hdigits, rfl, -⟩ := (readDigits_ok_iff (by decide)).mp hread
      have hnumeral : IsNumeral (c :: rest) := ⟨List.cons_ne_nil c rest, hdigits⟩
      refine Iff.trans ?_ (and_iff_right hnumeral).symm
      exact signed64_ok_iff

theorem IsDecimal.fits64 (h : IsDecimal cs n) {v : Int64} (hv : IsDecimal cs v.toInt) : Fits64 n := by
  rw [h.unique hv]
  exact Fits64.toInt v

private theorem IsDecimal.mem_cases (h : IsDecimal cs n) {c : Char} (hc : c ∈ cs) :
    c.isDigit = true ∨ c = '+' ∨ c = '-' := by
  cases h with
  | unsigned hdigits => exact .inl (hdigits.2 c hc)
  | plus hdigits =>
    rcases List.mem_cons.mp hc with rfl | hc
    · exact .inr (.inl rfl)
    · exact .inl (hdigits.2 c hc)
  | minus hdigits =>
    rcases List.mem_cons.mp hc with rfl | hc
    · exact .inr (.inr rfl)
    · exact .inl (hdigits.2 c hc)

theorem IsDecimal.not_mem (h : IsDecimal cs n) {c : Char} (hdigit : c.isDigit = false) (hplus : c ≠ '+')
    (hminus : c ≠ '-') : c ∉ cs := by
  intro hc
  rcases h.mem_cases hc with hc | hc | hc
  · rw [hdigit] at hc
    cases hc
  · exact hplus hc
  · exact hminus hc

theorem isNumeral_toString (n : Nat) : IsNumeral (toString n).toList ∧ numeralValue (toString n).toList = n := by
  rw [Nat.toString_eq_ofList_toDigits, String.toList_ofList]
  exact ⟨⟨Nat.toDigits_ne_nil, fun c hc => Nat.isDigit_of_mem_toDigits (by decide) (by decide) hc⟩,
    Nat.ofDigitChars_toDigits (by decide) (by decide)⟩

theorem isDecimal_toString (n : Nat) : IsDecimal (toString n).toList n := by
  obtain ⟨hnumeral, hvalue⟩ := isNumeral_toString n
  have hdecimal := IsDecimal.unsigned hnumeral
  rwa [hvalue] at hdecimal

theorem isDecimal_showInt64 (v : Int64) : IsDecimal (showInt64 v).toList v.toInt := by
  rw [showInt64]
  cases v.toInt with
  | ofNat m => exact isDecimal_toString m
  | negSucc m =>
    obtain ⟨hnumeral, hvalue⟩ := isNumeral_toString (m + 1)
    have hshown : (toString (Int.negSucc m)).toList = '-' :: (toString (m + 1)).toList := String.toList_append
    have hdecimal := IsDecimal.minus hnumeral
    rwa [hvalue, ← hshown] at hdecimal

theorem readInt64_showInt64 (v : Int64) : readInt64 (showInt64 v).toList = .ok v :=
  readInt64_ok_iff.mpr (isDecimal_showInt64 v)

end Decimals

end Text

end WatchTrial
