import Mathlib
import UniversalMachine.Proofs.Machine.Reachable
import UniversalMachine.Proofs.Machine.Transition
import UniversalMachine.Proofs.Memory.Change

/-!
The memory of a reachable machine. A step does at most one operation on memory, so what
operations keep holds in every machine that a host can reach.
-/

namespace UniversalMachine.Machine

variable {χ : Type} [Channel χ]

theorem change_perform (m : Machine χ) (op : Operator) (o : Operands) :
    m.memory.Change (m.perform op o).2.memory := by
  cases op with
  | add | multiply | nand => exact .none
  | segmentStore => exact .write ..
  | mapSegment => exact .allocate _
  | unmapSegment => exact .release _
  | conditionalMove | segmentLoad | divide | input =>
      simp only [perform]
      split <;> exact .none
  | output =>
      simp only [perform]
      split
      · split <;> exact .none
      · exact .none
  | loadProgram =>
      have loaded : m.memory.Change (m.withMemory (·.loadProgram (m.registers.get o.b))).2.memory :=
        .loadProgram _
      simp only [perform]
      split
      next answer =>
        rw [answer] at loaded
        exact loaded
      next => exact loaded

theorem change_execute (m : Machine χ) (word : Word) :
    m.memory.Change (m.execute word).2.memory := by
  rw [execute]
  split
  next => exact change_perform ..
  all_goals exact .none

theorem Transition.change {m m' : Machine χ} {answer : Except Fault Status}
    (transition : Transition m answer m') : m.memory.Change m'.memory := by
  cases transition with
  | @next word _ _ executed =>
      have change := change_execute m.advance word
      rw [executed] at change
      exact change
  | halt | fetchFault | fault => exact .none

theorem change_step (m : Machine χ) : m.memory.Change m.step.2.memory := by
  cases status : m.status with
  | running => exact (transition status).change
  | halted =>
      rw [step_of_halted status]
      exact .none
  | faulted fault =>
      rw [step_of_faulted status]
      exact .none

namespace Reachable

variable {program : Array Word} {m : Machine χ} (reached : Reachable program m)
include reached

theorem wellFormed : m.memory.WellFormed :=
  reached.invariant (P := fun m => m.memory.WellFormed)
    (fun m wf => wf.change (change_step m))
    (fun _ => Memory.wellFormed_ofProgram program) fun _ _ wf => wf

theorem short (fits : program.size < 2 ^ 32) : m.memory.Short := by
  have kept (m : Machine χ) (h : m.memory.WellFormed ∧ m.memory.Short) :
      m.step.2.memory.WellFormed ∧ m.step.2.memory.Short :=
    ⟨h.1.change (change_step m), h.2.change h.1 (change_step m)⟩
  exact (reached.invariant kept
    (fun _ => ⟨Memory.wellFormed_ofProgram program, Memory.short_ofProgram fits⟩)
    fun _ _ h => h).2

end Reachable

end UniversalMachine.Machine
