import Mathlib
import UniversalMachine.Proofs.Checked.Instruction

/-!
The bit fields of a word as digits of its value. A field falls into the fields above and below
any bit inside it, and so, bit by bit, into the sum of its bits. The field of all thirty-two
bits is the word: its mask, a power of two less one, still fits into a word.
-/

namespace UniversalMachine.Word

theorem mod_two_pow_add (n low high : ℕ) :
    n % 2 ^ (low + high) = n / 2 ^ low % 2 ^ high * 2 ^ low + n % 2 ^ low := by
  rw [Nat.pow_add, Nat.mod_mul, Nat.mul_comm, Nat.add_comm]

theorem toNat_field_self (w : Word) {i : ℕ} (top : i < 32) :
    (w.field i i).toNat = (w.bit i).toNat := by
  rw [toNat_field w le_rfl top, toNat_bit w top, Nat.add_sub_cancel_left, Nat.pow_one]

/-- A field is the one from bit `k` upwards and the one below bit `k`, side by side. -/
theorem toNat_field_split (w : Word) {hi k lo : ℕ} (above : lo < k) (below : k ≤ hi)
    (top : hi < 32) :
    (w.field hi lo).toNat =
      (w.field hi k).toNat * 2 ^ (k - lo) + (w.field (k - 1) lo).toNat := by
  have width : hi + 1 - lo = (k - lo) + (hi + 1 - k) := by omega
  have lowWidth : k - 1 + 1 - lo = k - lo := by omega
  have shift : w.toNat / 2 ^ k = w.toNat / 2 ^ lo / 2 ^ (k - lo) := by
    rw [Nat.div_div_eq_div_mul, ← Nat.pow_add, Nat.add_sub_of_le above.le]
  rw [toNat_field w (above.le.trans below) top, toNat_field w below top,
    toNat_field w (Nat.le_sub_one_of_lt above) (by omega), width, lowWidth, shift,
    mod_two_pow_add]

/-- A field is the sum of its bits, each at its place. The induction is on the highest bit,
which is split off. -/
theorem toNat_field_eq_sum (w : Word) {hi lo : ℕ} (order : lo ≤ hi) (top : hi < 32) :
    (w.field hi lo).toNat = ∑ i ∈ Finset.Icc lo hi, (w.bit i).toNat * 2 ^ (i - lo) := by
  induction hi, order using Nat.le_induction with
  | base =>
      rw [toNat_field_self w top, Finset.Icc_self, Finset.sum_singleton, Nat.sub_self,
        Nat.pow_zero, Nat.mul_one]
  | succ hi order ih =>
      have lower := ih (Nat.lt_of_succ_lt top)
      have split := toNat_field_split w (Nat.lt_add_one_of_le order) le_rfl top
      rw [toNat_field_self w top, Nat.add_sub_cancel, lower] at split
      rw [split, ← Finset.insert_Icc_right_eq_Icc_add_one (order.trans (Nat.le_succ hi)),
        Finset.sum_insert (by simp)]

theorem field_full (w : Word) : w.field 31 0 = w := by
  apply UInt32.toNat_inj.mp
  rw [toNat_field w (Nat.zero_le 31) (by decide), Nat.pow_zero, Nat.div_one]
  exact Nat.mod_eq_of_lt w.toNat_lt

/-- A field of a word is a run of binary digits of its value: what is left when the bits below
and above are divided off, and the sum of its bits at their places. At every bit inside it the
field falls into two. The field of all bits is the word, and computing its mask neither
overflows nor loses a bit. -/
theorem fields_are_digits (w : Word) :
    (∀ hi lo : ℕ, lo ≤ hi → hi ≤ 31 →
      (w.field hi lo).toNat = w.toNat / 2 ^ lo % 2 ^ (hi - lo + 1) ∧
      w.toNat / 2 ^ lo % 2 ^ (hi - lo + 1) =
        ∑ i ∈ Finset.Icc lo hi, (w.bit i).toNat * 2 ^ (i - lo) ∧
      ∀ k, lo < k → k ≤ hi →
        (w.field hi lo).toNat =
          (w.field hi k).toNat * 2 ^ (k - lo) + (w.field (k - 1) lo).toNat) ∧
    w.field 31 0 = w ∧ w.field? 31 0 = some w ∧ (mask 32).toNat = 2 ^ 32 - 1 := by
  have checked : w.field? 31 0 = some w := by
    rw [w.field?_eq (by decide) (by decide)]
    exact congrArg some (field_full w)
  refine ⟨fun hi lo order top => ?_, field_full w, checked, toNat_mask le_rfl⟩
  have top' : hi < 32 := Nat.lt_succ_of_le top
  have value := toNat_field w order top'
  rw [Nat.sub_add_comm order] at value
  refine ⟨value, ?_, fun k above below => toNat_field_split w above below top'⟩
  rw [← value, toNat_field_eq_sum w order top']

/-- Twenty-four bits in the middle of a word, also as two fields of twelve bits. -/
theorem middle_bits_are_digits :
    (4 ≤ 27 ∧ 27 ≤ 31 ∧ 4 < 16 ∧ 16 ≤ 27) ∧
      (field 0x7DBEEFED 27 4).toNat = 0xDBEEFE ∧
      ∑ i ∈ Finset.Icc 4 27, (bit 0x7DBEEFED i).toNat * 2 ^ (i - 4) = 0xDBEEFE ∧
      (field 0x7DBEEFED 27 16).toNat * 2 ^ 12 + (field 0x7DBEEFED 15 4).toNat = 0xDBEEFE := by
  obtain ⟨value, sum, split⟩ :=
    (fields_are_digits 0x7DBEEFED).1 27 4 (by decide) (by decide)
  have split := split 16 (by decide) (by decide)
  have digits : (field 0x7DBEEFED 27 4).toNat = 0xDBEEFE := value.trans (by decide)
  exact ⟨by decide, digits, sum.symm.trans (by decide), split.symm.trans digits⟩

end UniversalMachine.Word
