import UniversalMachine.Word
import UniversalMachine.Numeral

/-!
Faults: everything that can stop a machine, or keep a program from being loaded
into one. A fault records its cause; `Fault.message` is the only place that puts
causes into words.
-/

namespace UniversalMachine

inductive Fault where
  /-- A program image of `size` bytes is not a whole number of words. -/
  | invalidProgram (size : Nat)
  /-- The program file cannot be read, for the reason that the system gives. -/
  | unreadableProgram (path reason : String)
  /-- Operation codes 14 and 15 are not assigned. -/
  | illegalOpcode (code : UInt8) (word : Word)
  /-- An access to a segment that is not mapped, or beyond the end of one that is. -/
  | segmentFault (segment offset : Word)
  /-- An attempt to unmap segment 0 or a segment that is not mapped. -/
  | invalidSegment (segment : Word)
  | divisionByZero
  /-- An attempt to write a value that does not fit into a byte. -/
  | outOfRange (value : Word)
  /-- A register number that is not below eight. -/
  | invalidRegister (index : Nat)
  /-- The channel refused a byte, a request for a byte, or a flush. -/
  | io (reason : String)
  deriving DecidableEq

namespace Fault

/-- The wording of a fault, without any mention of who reports it. -/
def message : Fault → String
  | invalidProgram size => s!"invalid program: {size} bytes is not a multiple of 4"
  | unreadableProgram path reason => s!"cannot read program {path}: {reason}"
  | illegalOpcode code word =>
      s!"illegal opcode {code.toNat} in word x{Numeral.text 16 8 word.toNat}"
  | segmentFault segment offset =>
      s!"segment fault: segment {segment.toNat}, offset {offset.toNat}"
  | invalidSegment segment => s!"invalid segment {segment.toNat} for unmap"
  | divisionByZero => "division by zero"
  | outOfRange value => s!"output value {value.toNat} out of byte range"
  | invalidRegister index => s!"register index {index} out of bounds"
  | io reason => s!"io error: {reason}"

end Fault

end UniversalMachine
