import UniversalMachine.Register

/-!
Instructions and their encoding in words.

The four highest bits of a word are its operation code. Twelve operations name up to
three registers in the lowest nine bits; loading an immediate value has a format of
its own; halting needs no operands; the codes 14 and 15 are not assigned:

    standard   oooo ---- ---- ---- ---- ---a aabb bccc
    immediate  1101 aaav vvvv vvvv vvvv vvvv vvvv vvvv

Every word decodes to exactly one instruction. Encoding leaves the bits that a
format does not use at zero and cuts an immediate value to its field.
-/

namespace UniversalMachine

structure Operands where
  a : Register
  b : Register
  c : Register
  deriving DecidableEq

namespace Operands

/-- The register fields of any word, whatever its operation. -/
def decode (w : Word) : Operands where
  a := .ofField (w.field 8 6)
  b := .ofField (w.field 5 3)
  c := .ofField (w.field 2 0)

def encode (o : Operands) : Word :=
  (o.a.toField <<< 6) ||| (o.b.toField <<< 3) ||| o.c.toField

end Operands

inductive Operator where
  | conditionalMove
  | segmentLoad
  | segmentStore
  | add
  | multiply
  | divide
  | nand
  | mapSegment
  | unmapSegment
  | output
  | input
  | loadProgram
  deriving DecidableEq

def Operator.code : Operator → UInt8
  | .conditionalMove => 0
  | .segmentLoad => 1
  | .segmentStore => 2
  | .add => 3
  | .multiply => 4
  | .divide => 5
  | .nand => 6
  | .mapSegment => 8
  | .unmapSegment => 9
  | .output => 10
  | .input => 11
  | .loadProgram => 12

/-- The widest immediate value, which is also the mask of its field. -/
def immediateMask : Word :=
  .mask 25

inductive Instruction where
  | standard (op : Operator) (operands : Operands)
  | halt
  | loadImmediate (a : Register) (value : Word)
  /-- An operation code without a meaning. -/
  | illegal (code : UInt8)
  deriving DecidableEq

namespace Instruction

def decode (w : Word) : Instruction :=
  let operands := Operands.decode w
  match (w.field 31 28).toUInt8 with
  | 0 => .standard .conditionalMove operands
  | 1 => .standard .segmentLoad operands
  | 2 => .standard .segmentStore operands
  | 3 => .standard .add operands
  | 4 => .standard .multiply operands
  | 5 => .standard .divide operands
  | 6 => .standard .nand operands
  | 7 => .halt
  | 8 => .standard .mapSegment operands
  | 9 => .standard .unmapSegment operands
  | 10 => .standard .output operands
  | 11 => .standard .input operands
  | 12 => .standard .loadProgram operands
  | 13 => .loadImmediate (.ofField (w.field 27 25)) (w.field 24 0)
  | code => .illegal code

/-- The operation code of an instruction, which is below sixteen: of an illegal code
only the four lowest bits count. -/
def code : Instruction → UInt8
  | standard op _ => op.code
  | halt => 7
  | loadImmediate _ _ => 13
  | illegal code => code &&& 0xF

def encode (i : Instruction) : Word :=
  let opcode := i.code.toUInt32 <<< 28
  match i with
  | standard _ operands => opcode ||| operands.encode
  | loadImmediate a value => opcode ||| (a.toField <<< 25) ||| (value &&& immediateMask)
  | halt | illegal _ => opcode

end Instruction

end UniversalMachine
