import Mathlib
import UniversalMachine.Instruction
import UniversalMachine.Word.Lemmas

/-!
Decoding by arithmetic: the operation code of a word is its value divided by `2 ^ 28`,
and the fields are remainders of quotients by powers of two. Decoding by shifts and masks
comes to the same.
-/

namespace UniversalMachine

theorem Register.ofField_eq (w : Word) {hi lo : ℕ} (width : hi = lo + 2) (top : hi < 32) :
    Register.ofField (w.field hi lo) = Fin.ofNat 8 (w.toNat / 2 ^ lo) := by
  have bits : hi + 1 - lo = 3 := by omega
  apply Fin.ext
  change (w.field hi lo).toNat % 8 = w.toNat / 2 ^ lo % 8
  rw [Word.toNat_field w (by omega) top, bits]
  exact Nat.mod_mod _ 8

/-- The three register fields of a number. -/
def Operands.ofNat (w : ℕ) : Operands where
  a := Fin.ofNat 8 (w / 2 ^ 6)
  b := Fin.ofNat 8 (w / 2 ^ 3)
  c := Fin.ofNat 8 w

theorem Operands.decode_eq_ofNat (w : Word) : decode w = ofNat w.toNat := by
  have c_eq : Register.ofField (w.field 2 0) = Fin.ofNat 8 w.toNat := by
    rw [Register.ofField_eq w rfl (by decide), pow_zero, Nat.div_one]
  rw [decode, Register.ofField_eq w rfl (by decide), Register.ofField_eq w rfl (by decide),
    c_eq, ofNat]

namespace Instruction

/-- The instruction that a number stands for. -/
def ofNat (w : ℕ) : Instruction :=
  match w / 2 ^ 28 with
  | 0 => .standard .conditionalMove (.ofNat w)
  | 1 => .standard .segmentLoad (.ofNat w)
  | 2 => .standard .segmentStore (.ofNat w)
  | 3 => .standard .add (.ofNat w)
  | 4 => .standard .multiply (.ofNat w)
  | 5 => .standard .divide (.ofNat w)
  | 6 => .standard .nand (.ofNat w)
  | 7 => .halt
  | 8 => .standard .mapSegment (.ofNat w)
  | 9 => .standard .unmapSegment (.ofNat w)
  | 10 => .standard .output (.ofNat w)
  | 11 => .standard .input (.ofNat w)
  | 12 => .standard .loadProgram (.ofNat w)
  | 13 => .loadImmediate (Fin.ofNat 8 (w / 2 ^ 25)) (w % 2 ^ 25).toUInt32
  | code => .illegal code.toUInt8

theorem opcode_eq (w : Word) : (w.field 31 28).toUInt8 = (w.toNat / 2 ^ 28).toUInt8 := by
  have fits := w.toNat_lt
  rw [← UInt8.toNat_inj, UInt32.toNat_toUInt8, Word.toNat_field w (by decide) (by decide),
    Nat.toUInt8_eq, UInt8.toNat_ofNat']
  omega

theorem immediate_eq (w : Word) : w.field 24 0 = (w.toNat % 2 ^ 25).toUInt32 := by
  rw [← UInt32.toNat_inj, Word.toNat_field w (by decide) (by decide), Nat.toUInt32_eq,
    UInt32.toNat_ofNat', pow_zero, Nat.div_one]
  omega

theorem decode_eq_ofNat (w : Word) : decode w = ofNat w.toNat := by
  have fits := w.toNat_lt
  have small : w.toNat / 2 ^ 28 < 16 := by omega
  rw [decode, ofNat, opcode_eq, immediate_eq, Operands.decode_eq_ofNat,
    Register.ofField_eq w rfl (by decide)]
  generalize w.toNat / 2 ^ 28 = code at small ⊢
  interval_cases code <;> rfl

/-- The only operation codes without a meaning are 14 and 15. -/
theorem ofNat_eq_illegal {w : ℕ} {code : UInt8} (fits : w < 2 ^ 32)
    (h : ofNat w = .illegal code) : code.toNat = w / 2 ^ 28 ∧ (code = 14 ∨ code = 15) := by
  have small : w / 2 ^ 28 < 16 := by omega
  rw [ofNat] at h
  generalize w / 2 ^ 28 = number at small h ⊢
  interval_cases number
  case «14» | «15» =>
    obtain rfl := Instruction.illegal.inj h
    decide
  all_goals exact Instruction.noConfusion h

theorem decode_eq_illegal {w : Word} {code : UInt8} (h : decode w = .illegal code) :
    code.toUInt32 = w >>> 28 ∧ (code = 14 ∨ code = 15) := by
  rw [decode_eq_ofNat] at h
  obtain ⟨code_eq, unassigned⟩ := ofNat_eq_illegal w.toNat_lt h
  refine ⟨?_, unassigned⟩
  rw [← UInt32.toNat_inj, UInt32.toNat_shiftRight, UInt8.toNat_toUInt32, code_eq]
  exact (Nat.shiftRight_eq_div_pow w.toNat 28).symm

end Instruction

end UniversalMachine
