import Mathlib
import UniversalMachine.Proofs.Instruction.Decode

/-!
Decoding whose partial steps are checked. There is no answer where the bounds of a field are
out of order or outside the word, where a sum does not fit into its type, a difference is below
zero or a shift is by the width of its type or more, and where a number names no register.

Every word decodes nevertheless, and to the same instruction as without the checks.
-/

namespace UniversalMachine

/-- A number, if it is one of so many bits. -/
def fits? (bits n : ℕ) : Option ℕ :=
  if n < 2 ^ bits then some n else none

theorem fits?_eq {bits n : ℕ} (fits : n < 2 ^ bits) : fits? bits n = some n :=
  if_pos fits

/-- Bits `hi` down to `lo` of a word, whose width is computed in a byte and whose mask is
computed in sixty-four bits. -/
def Word.field? (w : Word) (hi lo : UInt8) : Option Word := do
  guard (lo ≤ hi ∧ hi < 32)
  let above ← fits? 8 (hi.toNat + 1)
  let width ← above.psub lo.toNat
  guard (width < 64)
  let ones ← (1 <<< width).psub 1
  guard (lo.toNat < 32)
  some ((w >>> lo.toUInt32) &&& ones.toUInt32)

theorem Word.field?_eq (w : Word) {hi lo : UInt8} (order : lo ≤ hi) (top : hi < 32) :
    w.field? hi lo = some (w.field hi.toNat lo.toNat) := by
  have order' : lo.toNat ≤ hi.toNat := UInt8.le_iff_toNat_le.mp order
  have top' : hi.toNat < 32 := UInt8.lt_iff_toNat_lt.mp top
  have sum : fits? 8 (hi.toNat + 1) = some (hi.toNat + 1) := fits?_eq (by omega)
  have width : (hi.toNat + 1).psub lo.toNat = some (hi.toNat + 1 - lo.toNat) :=
    Nat.psub_eq_sub (by omega)
  have narrow : hi.toNat + 1 - lo.toNat < 64 := by omega
  have ones : (1 <<< (hi.toNat + 1 - lo.toNat)).psub 1 =
      some (2 ^ (hi.toNat + 1 - lo.toNat) - 1) := by
    rw [Nat.one_shiftLeft, Nat.psub_eq_sub Nat.one_le_two_pow]
  have mask_eq : (2 ^ (hi.toNat + 1 - lo.toNat) - 1).toUInt32 =
      mask (hi.toNat + 1 - lo.toNat) := by
    rw [← toNat_mask (by omega)]
    exact UInt32.ofNat_toNat
  have low : lo.toNat < 32 := by omega
  simp only [field?, field, guard, if_pos (And.intro order top), if_pos narrow, if_pos low, sum,
    width, ones, mask_eq, Option.bind_eq_bind, Option.bind_some, Option.pure_def]
  rw [Nat.toUInt32_eq, UInt32.ofNat_uInt8ToNat]

/-- The register that a field names, if the eight registers have one of its number. -/
def Register.ofField? (bits : Word) : Option Register :=
  (Register.ofNat? (bits &&& 7).toUInt8.toNat).toOption

theorem Register.ofField?_eq (bits : Word) : ofField? bits = some (ofField bits) := by
  have number : (bits &&& 7).toUInt8.toNat = bits.toNat % 8 := by
    rw [UInt32.toNat_toUInt8, UInt32.toNat_and]
    change (bits.toNat &&& 2 ^ 3 - 1) % 2 ^ 8 = bits.toNat % 8
    rw [Nat.and_two_pow_sub_one_eq_mod]
    omega
  have small : bits.toNat % 8 < registerCount := Nat.mod_lt _ (by decide)
  rw [ofField?, number, ofNat?, dif_pos small]
  rfl

def Operands.decode? (w : Word) : Option Operands := do
  let a ← Register.ofField? (← w.field? 8 6)
  let b ← Register.ofField? (← w.field? 5 3)
  let c ← Register.ofField? (← w.field? 2 0)
  some { a, b, c }

theorem Operands.decode?_eq (w : Word) : decode? w = some (decode w) := by
  simp only [decode?, Word.field?_eq w (by decide : (6 : UInt8) ≤ 8) (by decide),
    Word.field?_eq w (by decide : (3 : UInt8) ≤ 5) (by decide),
    Word.field?_eq w (by decide : (0 : UInt8) ≤ 2) (by decide),
    Option.bind_eq_bind, Option.bind_some, Register.ofField?_eq]
  rfl

/-- The instruction that a word stands for. The operation code and the operands are read from
every word, the fields of the immediate format only where it is used. -/
def Instruction.decode? (w : Word) : Option Instruction := do
  let opcode ← w.field? 31 28
  let operands ← Operands.decode? w
  match opcode.toUInt8 with
  | 0 => some (.standard .conditionalMove operands)
  | 1 => some (.standard .segmentLoad operands)
  | 2 => some (.standard .segmentStore operands)
  | 3 => some (.standard .add operands)
  | 4 => some (.standard .multiply operands)
  | 5 => some (.standard .divide operands)
  | 6 => some (.standard .nand operands)
  | 7 => some .halt
  | 8 => some (.standard .mapSegment operands)
  | 9 => some (.standard .unmapSegment operands)
  | 10 => some (.standard .output operands)
  | 11 => some (.standard .input operands)
  | 12 => some (.standard .loadProgram operands)
  | 13 => do
      let a ← Register.ofField? (← w.field? 27 25)
      let value ← w.field? 24 0
      some (.loadImmediate a value)
  | code => some (.illegal code)

theorem Instruction.decode?_eq (w : Word) : decode? w = some (decode w) := by
  have immediate : w.field? 24 0 = some (w.field 24 0) :=
    w.field?_eq (by decide) (by decide)
  have register : w.field? 27 25 = some (w.field 27 25) :=
    w.field?_eq (by decide) (by decide)
  have opcode : w.field? 31 28 = some (w.field 31 28) :=
    w.field?_eq (by decide) (by decide)
  simp only [decode?, decode, opcode, register, immediate, Operands.decode?_eq,
    Register.ofField?_eq, Option.bind_eq_bind, Option.bind_some]
  generalize (w.field 31 28).toUInt8 = code
  split
  case h_15 => simp [*]
  all_goals rfl

end UniversalMachine
