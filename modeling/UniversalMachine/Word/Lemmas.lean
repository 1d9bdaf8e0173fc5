import Mathlib
import UniversalMachine.Word

/-!
Bit fields as numbers: a mask is one less than a power of two, and a field is what is left
of a word's value when the bits above and below it are divided off. Fields side by side are the
digits of a number.
-/

namespace UniversalMachine.Word

theorem toNat_eq_zero_iff {w : Word} : w.toNat = 0 ↔ w = 0 := by
  rw [← UInt32.toNat_zero, UInt32.toNat_inj]

theorem toNat_mask {width : Nat} (h : width ≤ 32) :
    (mask width).toNat = 2 ^ width - 1 := by
  have pos : 0 < 2 ^ width := Nat.two_pow_pos width
  have bound : 2 ^ width ≤ 2 ^ 32 := Nat.pow_le_pow_right (by decide) h
  have small : width % 2 ^ 64 % 64 = width := by omega
  simp only [mask, UInt64.toNat_toUInt32, UInt64.toNat_sub, UInt64.toNat_shiftLeft,
    Nat.toUInt64_eq, UInt64.toNat_ofNat', UInt64.toNat_one, small, Nat.one_shiftLeft]
  omega

theorem toNat_bit (w : Word) {i : Nat} (h : i < 32) :
    (w.bit i).toNat = w.toNat / 2 ^ i % 2 := by
  have small : i % 2 ^ 32 % 32 = i := by omega
  simp only [bit, UInt32.toNat_and, UInt32.toNat_shiftRight, Nat.toUInt32_eq,
    UInt32.toNat_ofNat', small, UInt32.toNat_one, Nat.and_one_is_mod,
    Nat.shiftRight_eq_div_pow]

theorem toNat_field (w : Word) {hi lo : Nat} (order : lo ≤ hi) (top : hi < 32) :
    (w.field hi lo).toNat = w.toNat / 2 ^ lo % 2 ^ (hi + 1 - lo) := by
  have small : lo % 2 ^ 32 % 32 = lo := by omega
  simp only [field, UInt32.toNat_and, UInt32.toNat_shiftRight, Nat.toUInt32_eq,
    UInt32.toNat_ofNat', small, toNat_mask (show hi + 1 - lo ≤ 32 by omega),
    Nat.and_two_pow_sub_one_eq_mod, Nat.shiftRight_eq_div_pow]

/-- Two fields side by side, of which the lower one has `width` bits. -/
theorem toNat_append (width : ℕ) {high low : Word} {h l : ℕ} (high_eq : high.toNat = h)
    (low_eq : low.toNat = l) (short : width < 32) (fits : h * 2 ^ width < 2 ^ 32)
    (small : l < 2 ^ width) :
    ((high <<< width.toUInt32) ||| low).toNat = h * 2 ^ width + l := by
  have amount : width % 2 ^ 32 % 32 = width := by omega
  rw [UInt32.toNat_or, UInt32.toNat_shiftLeft, Nat.toUInt32_eq, UInt32.toNat_ofNat', amount,
    high_eq, low_eq, Nat.shiftLeft_eq, Nat.mod_eq_of_lt fits, ← Nat.shiftLeft_eq,
    ← Nat.shiftLeft_add_eq_or_of_lt small]

theorem toNat_and_of_mask (w : Word) (width : ℕ) {m : Word} (short : width ≤ 28)
    (bits : m.toNat = 15 * 2 ^ 28 + (2 ^ width - 1)) :
    (w &&& m).toNat = w.toNat / 2 ^ 28 * 2 ^ 28 + w.toNat % 2 ^ width := by
  have fits := w.toNat_lt
  have bound : 2 ^ width ≤ 2 ^ 28 := Nat.pow_le_pow_right (by decide) short
  have pos : 0 < 2 ^ width := Nat.two_pow_pos width
  have high : m.toNat / 2 ^ 28 = 2 ^ 4 - 1 := by omega
  have low : m.toNat % 2 ^ 28 = 2 ^ width - 1 := by omega
  have quotient : (w.toNat &&& m.toNat) / 2 ^ 28 = w.toNat / 2 ^ 28 := by
    rw [Nat.and_div_two_pow, high, Nat.and_two_pow_sub_one_eq_mod]
    omega
  have remainder : (w.toNat &&& m.toNat) % 2 ^ 28 = w.toNat % 2 ^ width := by
    rw [Nat.and_mod_two_pow, low, Nat.and_two_pow_sub_one_eq_mod,
      Nat.mod_mod_of_dvd _ (Nat.pow_dvd_pow 2 short)]
  rw [UInt32.toNat_and, ← quotient, ← remainder, Nat.div_add_mod']

end UniversalMachine.Word
