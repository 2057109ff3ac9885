import Mathlib.Tactic.ByContra
import WatchTrial.Text.Order
/-!
# The order of texts is the order of their bytes

Texts are compared character by character. A smaller character has a smaller encoding, and no encoding is
the start of another, so comparing the bytes of two texts gives the same answer.
-/
namespace WatchTrial.Text

def bytes (s : String) : List UInt8 := s.toUTF8.data.toList

theorem bytes_eq (s : String) : bytes s = s.toList.flatMap String.utf8EncodeChar := by
  have h : s.toList.utf8Encode = s.toUTF8 := String.utf8Encode_toList
  rw [bytes, ← h, List.utf8Encode, List.toList_data_toByteArray]

/-- Numbers below the end of the code space compare as their digits of six bits do. -/
private theorem sextets_lt {m n : Nat} (h : m < n) :
    m / 262144 < n / 262144 ∨ m / 262144 = n / 262144 ∧
      (m / 4096 % 64 < n / 4096 % 64 ∨ m / 4096 % 64 = n / 4096 % 64 ∧
        (m / 64 % 64 < n / 64 % 64 ∨ m / 64 % 64 = n / 64 % 64 ∧ m % 64 < n % 64)) := by
  have hm : m = m / 262144 * 262144 + m / 4096 % 64 * 4096 + m / 64 % 64 * 64 + m % 64 := by omega
  have hn : n = n / 262144 * 262144 + n / 4096 % 64 * 4096 + n / 64 % 64 * 64 + n % 64 := by omega
  have hmd : m / 4096 % 64 < 64 ∧ m / 64 % 64 < 64 ∧ m % 64 < 64 := by omega
  have hnd : n / 4096 % 64 < 64 ∧ n / 64 % 64 < 64 ∧ n % 64 < 64 := by omega
  generalize m / 262144 = m₃, m / 4096 % 64 = m₂, m / 64 % 64 = m₁, m % 64 = m₀ at hm hmd ⊢
  generalize n / 262144 = n₃, n / 4096 % 64 = n₂, n / 64 % 64 = n₁, n % 64 = n₀ at hn hnd ⊢
  omega

private theorem utf8EncodeChar_append_lt {c d : Char} (h : c < d) (xs ys : List UInt8) :
    String.utf8EncodeChar c ++ xs < String.utf8EncodeChar d ++ ys := by
  have hlt : c.val.toNat < d.val.toNat := UInt32.lt_iff_toNat_lt.mp h
  have hmax : d.val.toNat < 0x110000 := by
    have hd := d.valid
    simp only [UInt32.isValidChar, Nat.isValidChar] at hd
    omega
  have hdigits := sextets_lt hlt
  -- No byte of an encoding wraps around.
  have hlow (x : Nat) : (x % 64 + 128) % 2 ^ 8 = x % 64 + 128 := by omega
  have htop (x : Nat) (hx : x < 0x110000) : (x / 262144 % 8 + 240) % 2 ^ 8 = x / 262144 + 240 := by omega
  unfold String.utf8EncodeChar
  generalize c.val.toNat = m at hlt hdigits
  generalize d.val.toNat = n at hlt hmax hdigits
  have htopm := htop m (Nat.lt_trans hlt hmax)
  have htopn := htop n hmax
  simp only
  split <;> split <;> (try split) <;> (try split) <;> (try split) <;> (try split) <;>
    simp only [List.cons_append, List.nil_append, List.cons_lt_cons_iff, UInt8.lt_iff_toNat_lt,
      ← UInt8.toNat_inj, UInt8.toNat_ofNat', hlow, htopm, htopn] <;> omega

private theorem encode_lt_of_lt {xs ys : List Char} (h : xs < ys) :
    xs.flatMap String.utf8EncodeChar < ys.flatMap String.utf8EncodeChar := by
  induction h with
  | @nil c rest =>
    rw [List.flatMap_cons]
    cases hc : String.utf8EncodeChar c with
    | nil => exact absurd hc String.utf8EncodeChar_ne_nil
    | cons b bs => exact .nil
  | rel h =>
    rw [List.flatMap_cons, List.flatMap_cons]
    exact utf8EncodeChar_append_lt h _ _
  | cons _ ih =>
    rw [List.flatMap_cons, List.flatMap_cons]
    exact List.append_left_lt ih

theorem lt_iff_bytes_lt {a b : String} : a < b ↔ bytes a < bytes b := by
  have hforward {a b : String} (h : a < b) : bytes a < bytes b := by
    rw [bytes_eq, bytes_eq]
    exact encode_lt_of_lt h
  refine ⟨hforward, fun h => ?_⟩
  by_contra hnot
  by_cases heq : a = b
  · subst heq
    exact List.lt_irrefl _ h
  · exact List.lt_asymm h (hforward (lt_total hnot heq))

end WatchTrial.Text
