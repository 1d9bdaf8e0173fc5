import UniversalMachine.Instruction

/-!
Assembly text.

An instruction is written as its mnemonic followed by those registers that it uses;
registers in fields that an operation ignores are not written. A listing has one line
for each word, with the word's offset and its value before the text.
-/

namespace UniversalMachine

namespace Operator

def mnemonic : Operator → String
  | conditionalMove => "CMOV"
  | segmentLoad => "SLOAD"
  | segmentStore => "SSTORE"
  | add => "ADD"
  | multiply => "MUL"
  | divide => "DIV"
  | nand => "NAND"
  | mapSegment => "MAP"
  | unmapSegment => "UNMAP"
  | output => "OUT"
  | input => "IN"
  | loadProgram => "LOADP"

/-- The registers that an operation uses, in the order in which they are written. -/
def registers (op : Operator) (o : Operands) : List Register :=
  match op with
  | conditionalMove | segmentLoad | segmentStore | add | multiply | divide | nand =>
      [o.a, o.b, o.c]
  | mapSegment | loadProgram => [o.b, o.c]
  | unmapSegment | output | input => [o.c]

end Operator

namespace Instruction

/-- The assembly text of an instruction. A value that is too wide for its field is
written in full. -/
def text : Instruction → String
  | standard op operands =>
      op.mnemonic ++ " " ++ ", ".intercalate ((op.registers operands).map Register.text)
  | halt => "HALT"
  | loadImmediate a value =>
      s!"LDI {a.text}, #{value.toNat} (x{Numeral.text 16 7 value.toNat})"
  | illegal code => s!"ILLEGAL x{Numeral.text 16 2 code.toNat}"

end Instruction

namespace Disassembly

def line (offset : Nat) (w : Word) : String :=
  s!"{Numeral.text 10 6 offset}: {Numeral.text 16 8 w.toNat}  {(Instruction.decode w).text}"

def lines (ws : Array Word) : Array String :=
  ws.mapIdx line

end Disassembly

end UniversalMachine
