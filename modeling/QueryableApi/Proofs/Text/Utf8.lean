import Mathlib.Logic.Function.Basic
import QueryableApi.Text.Utf8

/-! # Bytes of texts

The bytes of a text are those of the standard encoding (`utf8_eq`), so two texts with the same bytes are
one text (`utf8_injective`). A letter or digit is a byte of its own. -/

namespace QueryableApi.Text

variable {c : Char}

/-- Characters are below the bound of the code points. -/
theorem toNat_lt_bound (c : Char) : c.toNat < 0x110000 := by
  rcases c.valid with h | ⟨-, h⟩
  · exact Nat.lt_trans h (by decide)
  · exact h

/-- The bytes of a character are those of the standard encoding. -/
theorem utf8OfChar_eq (c : Char) : utf8OfChar c = String.utf8EncodeChar c := by
  have hbound := toNat_lt_bound c
  have hval : c.val.toNat = c.toNat := rfl
  unfold utf8OfChar String.utf8EncodeChar
  simp only [hval, Nat.shiftRight_eq_div_pow, Nat.reducePow, Nat.div_one]
  generalize c.toNat = n at hbound
  have hone : n ≤ 127 ↔ n < 0x80 := Nat.lt_succ_iff.symm
  have htwo : n ≤ 2047 ↔ n < 0x800 := Nat.lt_succ_iff.symm
  have hthree : n ≤ 65535 ↔ n < 0x10000 := Nat.lt_succ_iff.symm
  simp only [hone, htwo, hthree]
  -- below each bound, the first byte has room for the bits that are left
  split
  · rfl
  · split
    · have hlead : n / 64 % 32 = n / 64 := by omega
      rw [hlead]
      simp only [Nat.add_comm]
    · split
      · have hlead : n / 4096 % 16 = n / 4096 := by omega
        rw [hlead]
        simp only [Nat.add_comm]
      · have hlead : n / 262144 % 8 = n / 262144 := by omega
        rw [hlead]
        simp only [Nat.add_comm]

/-- **The bytes of a text** are those of the standard encoding. -/
theorem utf8_eq (s : String) : utf8 s = s.toUTF8.data.toList := by
  have hchars : utf8OfChar = String.utf8EncodeChar := funext utf8OfChar_eq
  rw [utf8, hchars, String.toUTF8, ← String.utf8Encode_toList, List.utf8Encode,
    List.data_toByteArray, List.toList_toArray]

/-- **Texts with the same bytes are equal.** -/
theorem utf8_injective : Function.Injective utf8 := by
  intro s t h
  rw [utf8_eq, utf8_eq, Array.toList_inj] at h
  exact String.toByteArray_inj.mp (ByteArray.ext h)

/-! ## Characters of one byte -/

/-- Letters and digits are single bytes. -/
theorem toNat_lt_of_isAlphanum (hc : c.isAlphanum = true) : c.toNat < 0x80 := by
  have hbelow : c ≤ 'Z' ∨ c ≤ 'z' ∨ c ≤ '9' := by
    rcases Bool.or_eq_true_iff.mp hc with hletter | hdigit
    · rcases Bool.or_eq_true_iff.mp hletter with hupper | hlower
      · exact .inl (of_decide_eq_true hupper).2
      · exact .inr (.inl (of_decide_eq_true (Bool.and_eq_true_iff.mp hlower).2))
    · exact .inr (.inr (of_decide_eq_true (Bool.and_eq_true_iff.mp hdigit).2))
  have hnat : ∀ d : Char, c ≤ d → d.toNat < 0x80 → c.toNat < 0x80 :=
    fun d hle hd => Nat.lt_of_le_of_lt (UInt32.le_iff_toNat_le.mp hle) hd
  rcases hbelow with hle | hle | hle <;> exact hnat _ hle (by decide)

/-- A single byte stands for itself. -/
theorem utf8OfChar_of_lt (h : c.toNat < 0x80) : utf8OfChar c = [UInt8.ofNat c.toNat] := if_pos h

end QueryableApi.Text
