import Mathlib
import UniversalMachine.Proofs.Machine.Transition
import UniversalMachine.Proofs.Memory.Change

/-!
What the instruction of a step leaves alone. No instruction touches the status or the count
of steps, which belong to the step; only loading a program moves the program counter to
another place or changes how long the program is; only input and output use the channel.
-/

namespace UniversalMachine

/-- The operation of an instruction in the standard format. -/
def Instruction.operator? : Instruction → Option Operator
  | standard op _ => some op
  | halt | loadImmediate _ _ | illegal _ => none

namespace Machine

variable {χ : Type}

/-- The instruction that the next step carries out. There is none if the machine has stopped,
or if there is no word at its program counter. -/
def next? (m : Machine χ) : Option Instruction :=
  match m.status, m.memory.read 0 m.pc with
  | .running, .ok word => some (Instruction.decode word)
  | _, _ => none

/-- The operation that the next step carries out, if its instruction has one. -/
def nextOperator? (m : Machine χ) : Option Operator :=
  m.next?.bind Instruction.operator?

theorem next?_of_fetched {m : Machine χ} {word : Word} (running : m.status = .running)
    (fetched : m.memory.read 0 m.pc = .ok word) : m.next? = some (Instruction.decode word) := by
  simp only [next?, running, fetched]

theorem fetched_of_next? {m : Machine χ} {i : Instruction} (h : m.next? = some i) :
    m.status = .running ∧ ∃ word, m.memory.read 0 m.pc = .ok word ∧
      Instruction.decode word = i := by
  rw [next?] at h
  split at h
  next word running fetched => exact ⟨running, word, fetched, Option.some.inj h⟩
  next => cases h

theorem next?_of_stopped {m : Machine χ} (stopped : m.status ≠ .running) : m.next? = none :=
  Option.eq_none_iff_forall_ne_some.mpr fun _ next => stopped (fetched_of_next? next).1

theorem get_assign (m : Machine χ) (r r' : Register) (value : Word) :
    (m.assign r value).registers.get r' = if r' = r then value else m.registers.get r' := by
  rw [assign, Vector.get_eq_getElem, Vector.getElem_set, Vector.get_eq_getElem]
  refine if_congr ?_ rfl rfl
  rw [Fin.val_inj, eq_comm]

theorem nextOperator?_eq_some_iff {m : Machine χ} {op : Operator} :
    m.nextOperator? = some op ↔ ∃ o, m.next? = some (.standard op o) := by
  rw [nextOperator?, Option.bind_eq_some_iff]
  constructor
  · rintro ⟨i, next, operator⟩
    cases i with
    | standard _ o =>
        obtain rfl := Option.some.inj operator
        exact ⟨o, next⟩
    | halt | loadImmediate | illegal => cases operator
  · rintro ⟨o, next⟩
    exact ⟨_, next, rfl⟩

/-- What is left of a machine by an instruction with the given operation. -/
structure Frame (op? : Option Operator) (m m' : Machine χ) : Prop where
  status : m'.status = m.status
  steps : m'.steps = m.steps
  pc : op? ≠ some .loadProgram → m'.pc = m.pc
  channel : op? ≠ some .input → op? ≠ some .output → m'.channel = m.channel
  programSize : op? ≠ some .loadProgram → m.memory.WellFormed →
    m'.memory.segmentSize? 0 = m.memory.segmentSize? 0

theorem Frame.refl (op? : Option Operator) (m : Machine χ) : Frame op? m m :=
  ⟨rfl, rfl, fun _ => rfl, fun _ _ => rfl, fun _ _ => rfl⟩

theorem frame_assign (op? : Option Operator) (m : Machine χ) (r : Register) (value : Word) :
    Frame op? m (m.assign r value) :=
  ⟨rfl, rfl, fun _ => rfl, fun _ _ => rfl, fun _ _ => rfl⟩

theorem frame_withMemory {op? : Option Operator} {m : Machine χ}
    {change : Memory → Except Fault Unit × Memory}
    (keeps : op? ≠ some .loadProgram → m.memory.WellFormed →
      (change m.memory).2.segmentSize? 0 = m.memory.segmentSize? 0) :
    Frame op? m (m.withMemory change).2 :=
  ⟨rfl, rfl, fun _ => rfl, fun _ _ => rfl, keeps⟩

variable [Channel χ]

theorem frame_perform (m : Machine χ) (op : Operator) (o : Operands) :
    Frame (some op) m (m.perform op o).2 := by
  cases op with
  | add | multiply | nand => exact frame_assign ..
  | conditionalMove =>
      simp only [perform]
      split
      · exact .refl _ m
      · exact frame_assign ..
  | segmentLoad =>
      simp only [perform]
      split
      · exact frame_assign ..
      · exact .refl _ m
  | divide =>
      simp only [perform]
      split
      · exact .refl _ m
      · exact frame_assign ..
  | segmentStore =>
      exact frame_withMemory fun _ _ => m.memory.segmentSize?_write ..
  | unmapSegment =>
      exact frame_withMemory fun _ _ => m.memory.programSize_release _
  | mapSegment =>
      exact ⟨rfl, rfl, fun _ => rfl, fun _ _ => rfl, fun _ wf => wf.programSize_allocate _⟩
  | output =>
      have used {c : χ} : Frame (some .output) m { m with channel := c } :=
        ⟨rfl, rfl, fun _ => rfl, fun _ unused => absurd rfl unused, fun _ _ => rfl⟩
      simp only [perform]
      split
      · split <;> exact used
      · exact .refl _ m
  | input =>
      simp only [perform]
      split <;>
        exact ⟨rfl, rfl, fun _ => rfl, fun unused => absurd rfl unused, fun _ _ => rfl⟩
  | loadProgram =>
      have loaded : Frame (some .loadProgram) m
          (m.withMemory (·.loadProgram (m.registers.get o.b))).2 :=
        frame_withMemory fun other => absurd rfl other
      simp only [perform]
      split
      next answer =>
        rw [answer] at loaded
        exact { loaded with pc := fun other => absurd rfl other }
      next => exact loaded

theorem frame_execute (m : Machine χ) (word : Word) :
    Frame (Instruction.decode word).operator? m (m.execute word).2 := by
  rw [execute]
  split
  next op o decoded =>
    rw [decoded]
    exact frame_perform m op o
  next => exact .refl _ m
  next => exact frame_assign ..
  next => exact .refl _ m

section
variable {m m' : Machine χ} {word : Word} (running : m.status = .running)
  (fetched : m.memory.read 0 m.pc = .ok word)
include running fetched

theorem step_of_next (executed : m.advance.execute word = (.ok .next, m')) :
    m.step = (.ok .running, m') := by
  simp only [step, running, fetched, executed]

theorem step_of_fault {fault : Fault}
    (executed : m.advance.execute word = (.error fault, m')) : m.step = m'.stop fault := by
  simp only [step, running, fetched, executed]

end

end Machine

end UniversalMachine
