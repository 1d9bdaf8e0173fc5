import Mathlib
import UniversalMachine.Proofs.Instruction.Decode

/-!
Decoding and encoding undo each other as far as they can. An encoded instruction is the number
whose digits are its operation code and its operands, and decoding reads these digits back. What
encoding a decoded word loses are the bits that its format does not use; what decoding an encoded
instruction loses is what does not fit into the field for it.
-/

namespace UniversalMachine

namespace Register

theorem lt_eight (r : Register) : r.val < 8 :=
  r.isLt

theorem toNat_toField (r : Register) : r.toField.toNat = r.val := by
  decide +revert

end Register

namespace Operands

/-- The number that the three register fields are the digits of. -/
def toNat (o : Operands) : ℕ :=
  o.a * 2 ^ 6 + (o.b * 2 ^ 3 + o.c)

theorem toNat_lt (o : Operands) : o.toNat < 2 ^ 9 := by
  have a := o.a.lt_eight
  have b := o.b.lt_eight
  have c := o.c.lt_eight
  rw [toNat]
  omega

theorem toNat_ofNat (n : ℕ) : (ofNat n).toNat = n % 2 ^ 9 := by
  change n / 2 ^ 6 % 8 * 2 ^ 6 + (n / 2 ^ 3 % 8 * 2 ^ 3 + n % 8) = n % 2 ^ 9
  omega

/-- Nothing above the register fields is read. -/
theorem ofNat_add_toNat (k : ℕ) (o : Operands) : ofNat (k * 2 ^ 9 + o.toNat) = o := by
  have a := o.a.lt_eight
  have b := o.b.lt_eight
  have c := o.c.lt_eight
  rw [ofNat, toNat, Operands.mk.injEq, Fin.ext_iff, Fin.ext_iff, Fin.ext_iff]
  change _ / 2 ^ 6 % 8 = o.a.val ∧ _ / 2 ^ 3 % 8 = o.b.val ∧ _ % 8 = o.c.val
  omega

theorem toNat_encode (o : Operands) : o.encode.toNat = o.toNat := by
  have a := o.a.lt_eight
  have b := o.b.lt_eight
  have c := o.c.lt_eight
  have low : ((o.b.toField <<< 3) ||| o.c.toField).toNat = o.b * 2 ^ 3 + o.c :=
    Word.toNat_append 3 o.b.toNat_toField o.c.toNat_toField (by decide) (by omega) (by omega)
  rw [encode, UInt32.or_assoc, toNat]
  exact Word.toNat_append 6 o.a.toNat_toField low (by decide) (by omega) (by omega)

end Operands

namespace Instruction

/-! ### Encoded instructions as numbers -/

/-- What an encoded instruction has below its operation code. -/
def payload : Instruction → ℕ
  | standard _ o => o.toNat
  | loadImmediate a value => a * 2 ^ 25 + value.toNat % 2 ^ 25
  | halt | illegal _ => 0

theorem payload_lt (i : Instruction) : i.payload < 2 ^ 28 := by
  cases i with
  | standard op o => exact Nat.lt_trans o.toNat_lt (by decide)
  | loadImmediate a value =>
      have bound := a.lt_eight
      rw [payload]
      omega
  | halt | illegal => exact Nat.two_pow_pos 28

theorem code_lt (i : Instruction) : i.code.toNat < 16 := by
  cases i with
  | standard op o => cases op <;> exact Nat.lt_of_sub_eq_succ rfl
  | halt | loadImmediate => exact Nat.lt_of_sub_eq_succ rfl
  | illegal code =>
      rw [Instruction.code, UInt8.toNat_and]
      exact Nat.lt_of_le_of_lt Nat.and_le_right (by decide)

theorem toNat_immediate (a : Register) (value : Word) :
    ((a.toField <<< 25) ||| (value &&& immediateMask)).toNat =
      a * 2 ^ 25 + value.toNat % 2 ^ 25 := by
  have bound := a.lt_eight
  have cut : (value &&& immediateMask).toNat = value.toNat % 2 ^ 25 := by
    rw [UInt32.toNat_and, immediateMask, Word.toNat_mask (by decide),
      Nat.and_two_pow_sub_one_eq_mod]
  exact Word.toNat_append 25 a.toNat_toField cut (by decide) (by omega)
    (Nat.mod_lt _ (Nat.two_pow_pos 25))

theorem toNat_encode (i : Instruction) :
    i.encode.toNat = i.code.toNat * 2 ^ 28 + i.payload := by
  have code := i.code_lt
  have payload := i.payload_lt
  have opcode : i.code.toUInt32.toNat = i.code.toNat := UInt8.toNat_toUInt32 _
  have fits : i.code.toNat * 2 ^ 28 < 2 ^ 32 := by omega
  cases i with
  | standard op o =>
      exact Word.toNat_append 28 opcode o.toNat_encode (by decide) fits payload
  | loadImmediate a value =>
      rw [encode, UInt32.or_assoc]
      exact Word.toNat_append 28 opcode (toNat_immediate a value) (by decide) fits payload
  | halt => rfl
  | illegal n =>
      have empty := Word.toNat_append 28 opcode UInt32.toNat_zero (by decide) fits payload
      rwa [UInt32.or_zero] at empty

theorem encode_shiftRight (i : Instruction) : i.encode >>> 28 = i.code.toUInt32 := by
  have payload := i.payload_lt
  rw [← UInt32.toNat_inj, UInt32.toNat_shiftRight, toNat_encode, UInt8.toNat_toUInt32]
  change (_ * 2 ^ 28 + _) >>> 28 = _
  rw [Nat.shiftRight_eq_div_pow]
  omega

/-! ### Decoding what was encoded -/

theorem ofNat_standard (op : Operator) (o : Operands) :
    ofNat (op.code.toNat * 2 ^ 28 + o.toNat) = standard op o := by
  have small := o.toNat_lt
  have operands (k : ℕ) : Operands.ofNat (k * 2 ^ 28 + o.toNat) = o := by
    have shifted := Operands.ofNat_add_toNat (k * 2 ^ 19) o
    rwa [Nat.mul_assoc, ← Nat.pow_add] at shifted
  have quotient : (op.code.toNat * 2 ^ 28 + o.toNat) / 2 ^ 28 = op.code.toNat := by omega
  rw [ofNat, quotient, operands]
  cases op <;> rfl

theorem ofNat_loadImmediate (a : Register) {value : ℕ} (small : value < 2 ^ 25) :
    ofNat (13 * 2 ^ 28 + (a * 2 ^ 25 + value)) = loadImmediate a value.toUInt32 := by
  have bound := a.lt_eight
  have quotient : (13 * 2 ^ 28 + (a.val * 2 ^ 25 + value)) / 2 ^ 28 = 13 := by omega
  have register : Fin.ofNat 8 ((13 * 2 ^ 28 + (a.val * 2 ^ 25 + value)) / 2 ^ 25) = a := by
    apply Fin.ext
    change _ % 8 = a.val
    omega
  have immediate : (13 * 2 ^ 28 + (a.val * 2 ^ 25 + value)) % 2 ^ 25 = value := by omega
  simp only [ofNat, quotient, register, immediate]

theorem decode_encode_standard (op : Operator) (o : Operands) :
    decode (standard op o).encode = standard op o := by
  rw [decode_eq_ofNat, toNat_encode]
  exact ofNat_standard op o

theorem decode_encode_loadImmediate (a : Register) (value : Word) :
    decode (loadImmediate a value).encode = loadImmediate a (value % 2 ^ 25) := by
  have cut : value % 2 ^ 25 = (value.toNat % 2 ^ 25).toUInt32 := by
    rw [← UInt32.toNat_inj, UInt32.toNat_mod, Nat.toUInt32_eq, UInt32.toNat_ofNat']
    change value.toNat % 2 ^ 25 = _
    omega
  rw [decode_eq_ofNat, toNat_encode, cut]
  exact ofNat_loadImmediate a (Nat.mod_lt _ (Nat.two_pow_pos 25))

/-- No word stands for the instruction: its immediate value is too wide, or its operation code
has a meaning or more than four bits. -/
def Unencodable : Instruction → Prop
  | loadImmediate _ value => 2 ^ 25 ≤ value.toNat
  | illegal code => code ≠ 14 ∧ code ≠ 15
  | standard _ _ | halt => False

theorem decode_encode_eq_iff (i : Instruction) : decode i.encode = i ↔ ¬ i.Unencodable := by
  cases i with
  | standard op o => simp [decode_encode_standard, Unencodable]
  | halt => exact iff_of_true rfl not_false
  | loadImmediate a value =>
      rw [decode_encode_loadImmediate, loadImmediate.injEq, ← UInt32.toNat_inj,
        UInt32.toNat_mod, Unencodable, Nat.not_le]
      change _ ∧ value.toNat % 2 ^ 25 = _ ↔ _
      simp only [true_and, Nat.mod_eq_iff_lt (Nat.two_pow_pos 25).ne']
  | illegal code =>
      rw [Unencodable, ← not_or, not_not]
      constructor
      · intro same
        exact (decode_eq_illegal same).2
      · rintro (rfl | rfl) <;> rfl

theorem not_unencodable_decode (w : Word) : ¬ (decode w).Unencodable := by
  cases decoded : decode w with
  | standard | halt => exact not_false
  | loadImmediate a value =>
      rw [decode] at decoded
      split at decoded <;> cases decoded
      rw [Unencodable, Word.toNat_field w (by decide) (by decide), Nat.not_le]
      exact Nat.mod_lt _ (Nat.two_pow_pos 25)
  | illegal code =>
      obtain ⟨-, rfl | rfl⟩ := decode_eq_illegal decoded <;> simp [Unencodable]

/-! ### Encoding what was decoded -/

/-- The bits that count for the instruction of a word, given its operation code. -/
def formatMask (code : Word) : Word :=
  match code with
  | 7 | 14 | 15 => 0xF0000000
  | 13 => 0xFFFFFFFF
  | _ => 0xF00001FF

theorem encode_decode (w : Word) : (decode w).encode = w &&& formatMask (w >>> 28) := by
  have fits := w.toNat_lt
  have small : w.toNat / 2 ^ 28 < 16 := by omega
  have top : w >>> 28 = (w.toNat / 2 ^ 28).toUInt32 := by
    rw [← UInt32.toNat_inj, UInt32.toNat_shiftRight, Nat.toUInt32_eq, UInt32.toNat_ofNat']
    change w.toNat >>> 28 = _
    rw [Nat.shiftRight_eq_div_pow]
    omega
  rw [← UInt32.toNat_inj, toNat_encode, decode_eq_ofNat, ofNat, top]
  generalize quotient : w.toNat / 2 ^ 28 = code at small ⊢
  interval_cases code
  case «7» | «14» | «15» =>
    have bits := Word.toNat_and_of_mask w 0 (m := 0xF0000000) (by decide) rfl
    rw [quotient, Nat.pow_zero, Nat.mod_one] at bits
    exact bits.symm
  case «13» =>
    have bits := Word.toNat_and_of_mask w 28 (m := 0xFFFFFFFF) (Nat.le_refl 28) rfl
    have immediate : (w.toNat % 2 ^ 25).toUInt32.toNat % 2 ^ 25 = w.toNat % 2 ^ 25 := by
      rw [Nat.toUInt32_eq, UInt32.toNat_ofNat']
      omega
    have digits : w.toNat / 2 ^ 25 % 8 * 2 ^ 25 + w.toNat % 2 ^ 25 = w.toNat % 2 ^ 28 := by
      omega
    rw [quotient, ← digits, ← immediate] at bits
    exact bits.symm
  all_goals
    have bits := Word.toNat_and_of_mask w 9 (m := 0xF00001FF) (by decide) rfl
    rw [quotient, ← Operands.toNat_ofNat] at bits
    exact bits.symm

theorem decode_encode_decode (w : Word) : decode (decode w).encode = decode w :=
  (decode_encode_eq_iff _).mpr (not_unencodable_decode w)

/-- An instruction is read back from its word unless its immediate value is too wide, which is
then cut to its field, or its illegal code is not one of the two. A word is written back but for
the bits that its format does not use; so two words stand for the same instruction if and only if
they agree in the bits that count. -/
theorem codec_loses_only_unused_bits :
    (∀ i : Instruction, decode i.encode = i ↔ ¬ i.Unencodable) ∧
    (∀ a value, decode (loadImmediate a value).encode = loadImmediate a (value % 2 ^ 25)) ∧
    (∀ i : Instruction, i.encode >>> 28 = i.code.toUInt32) ∧
    (∀ w, (decode w).encode = w &&& formatMask (w >>> 28)) ∧
    (∀ w, decode (decode w).encode = decode w) ∧
    ∀ w w', decode w = decode w' ↔
      w &&& formatMask (w >>> 28) = w' &&& formatMask (w' >>> 28) := by
  refine ⟨decode_encode_eq_iff, decode_encode_loadImmediate, encode_shiftRight, encode_decode,
    decode_encode_decode, fun w w' => ?_⟩
  rw [← encode_decode, ← encode_decode]
  constructor
  · exact congrArg encode
  · intro same
    rw [← decode_encode_decode w, same, decode_encode_decode]

/-- Of an addition only the operation code and nine bits count. -/
example : (decode 0x3ABCDE53).encode = 0x30000053 := by decide

end Instruction

end UniversalMachine
