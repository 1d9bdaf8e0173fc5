import Mathlib
import UniversalMachine.Channel.Buffer
import UniversalMachine.Proofs.Machine.Frame
import UniversalMachine.Proofs.Machine.Reachable

/-!
A machine that has stopped shows why. The program counter still points behind the
instruction that stopped it, that instruction is still in segment 0, and the registers and
segments are still those that made it stop. The exception is a fetch that failed: the
counter then still points to where there is no instruction.
-/

namespace UniversalMachine.Machine

variable {χ : Type} [Channel χ]

/-- The state of a machine gives the reason for its status. -/
def Explained (m : Machine χ) : Prop :=
  match m.status with
  | .running => True
  | .halted =>
      ∃ word, m.memory.read 0 (m.pc - 1) = .ok word ∧ Instruction.decode word = .halt
  | .faulted fault =>
      (fault = .segmentFault 0 m.pc ∧ m.memory.Beyond 0 m.pc) ∨
        ∃ word, m.memory.read 0 (m.pc - 1) = .ok word ∧
          Cause m.registers m.memory word fault

omit [Channel χ] in
theorem explained_of_running {m : Machine χ} (running : m.status = .running) :
    m.Explained := by
  simp only [Explained, running]

omit [Channel χ] in
theorem pc_advance_sub_one (m : Machine χ) : m.advance.pc - 1 = m.pc :=
  UInt32.add_sub_cancel m.pc 1

/-- A transition of a running machine ends in an explained state. Only the next word to
carry out is looked at; so it does not matter what the program did to itself before. -/
theorem Transition.explained {m m' : Machine χ} {answer : Except Fault Status}
    (transition : Transition m answer m') (running : m.status = .running) :
    m'.Explained := by
  cases transition with
  | @next word _ _ executed =>
      have frame := frame_execute m.advance word
      rw [executed] at frame
      exact explained_of_running (frame.status.trans running)
  | halt fetched decoded =>
      refine ⟨_, ?_, decoded⟩
      rw [pc_advance_sub_one]
      exact fetched
  | fetchFault beyond => exact .inl ⟨rfl, beyond⟩
  | fault fetched cause =>
      refine .inr ⟨_, ?_, cause⟩
      rw [pc_advance_sub_one]
      exact fetched

theorem explained_step (m : Machine χ) (explained : m.Explained) : m.step.2.Explained := by
  cases status : m.status with
  | running => exact (transition status).explained status
  | halted =>
      rw [step_of_halted status]
      exact explained
  | faulted fault =>
      rw [step_of_faulted status]
      exact explained

theorem Reachable.explained {program : Array Word} {m : Machine χ}
    (reached : Reachable program m) : m.Explained :=
  reached.invariant explained_step (fun _ => trivial) fun _ _ explained => explained

/-- A machine that has halted has the halting instruction behind its program counter. One
that has faulted failed to fetch at its program counter, or has behind it the word of an
instruction that faults on the present registers and segments. No machine has one of the
three faults that are about files, images and register numbers. -/
theorem terminal_state_explained {program : Array Word} {m : Machine χ}
    (reached : Reachable program m) :
    (m.status = .halted →
      ∃ word, m.memory.read 0 (m.pc - 1) = .ok word ∧ Instruction.decode word = .halt) ∧
    ∀ fault, m.status = .faulted fault →
      ((fault = .segmentFault 0 m.pc ∧ m.memory.Beyond 0 m.pc) ∨
        ∃ word, m.memory.read 0 (m.pc - 1) = .ok word ∧
          Cause m.registers m.memory word fault) ∧
      (∀ size, fault ≠ .invalidProgram size) ∧
      (∀ path reason, fault ≠ .unreadableProgram path reason) ∧
      ∀ index, fault ≠ .invalidRegister index := by
  have explained := reached.explained
  constructor
  · intro halted
    simpa only [Explained, halted] using explained
  · intro fault faulted
    simp only [Explained, faulted] at explained
    refine ⟨explained, ?_, ?_, ?_⟩
    -- A failed fetch is a segment fault, and no instruction has one of the three as its fault.
    all_goals
      intros
      rintro rfl
      obtain ⟨wrong, -⟩ | ⟨_, -, cause⟩ := explained
      · cases wrong
      · cases cause

/-- A program that writes zero over its halting instruction runs into the division that
stands behind it. -/
theorem overwritten_halt_explained :
    let program : Array Word := #[0xD2000002, 0x2000000A, 0x70000000, 0x50000000]
    let m : Machine Buffer := ((start program {}).run 9).2
    m.status = .faulted .divisionByZero ∧
      ∃ word, m.memory.read 0 (m.pc - 1) = .ok word ∧
        Cause m.registers m.memory word .divisionByZero := by
  intro program m
  have reached : Reachable program m := .run (.start ({} : Buffer)) 9
  have faulted : m.status = .faulted .divisionByZero := by decide
  obtain ⟨⟨wrong, -⟩ | explained, -⟩ :=
    (terminal_state_explained reached).2 .divisionByZero faulted
  · cases wrong
  · exact ⟨faulted, explained⟩

end UniversalMachine.Machine
