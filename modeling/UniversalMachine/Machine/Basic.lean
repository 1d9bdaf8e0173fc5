import UniversalMachine.Instruction
import UniversalMachine.Memory
import UniversalMachine.Channel

/-!
The state of a machine.
-/

namespace UniversalMachine

inductive Status where
  | running
  | halted
  /-- The machine was stopped by a fault, which it keeps. -/
  | faulted (fault : Fault)
  deriving DecidableEq

structure Machine (χ : Type) where
  registers : Registers := .zero
  memory : Memory
  /-- The offset in segment 0 of the next instruction. -/
  pc : Word := 0
  status : Status := .running
  /-- The number of instructions fetched, one that halted or faulted included. The number has no
  bound; for one of sixty-four bits see `Proofs/Checked/Machine`. -/
  steps : Nat := 0
  channel : χ

namespace Machine

/-- The machine at the start of a program: registers zero, only segment 0 mapped. -/
def start {χ : Type} (program : Array Word) (channel : χ) : Machine χ :=
  { memory := .ofProgram program, channel }

end Machine

end UniversalMachine
