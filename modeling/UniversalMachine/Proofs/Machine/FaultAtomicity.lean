import Mathlib
import UniversalMachine.Channel.Buffer
import UniversalMachine.Proofs.Machine.Transition

/-!
A step that faults is atomic. It leaves the registers and the whole memory as they were,
the ids of later segments included, and of the two counters it moves both or none. Which
of these it is depends on the fetch alone. What happens to the channel is up to the
channel; a buffer stays as it was.

Steps are counted without a bound here. A machine that counts them in sixty-four bits takes the
same steps as long as the count stays below `2 ^ 64`, see `Proofs/Checked/Machine`.
-/

namespace UniversalMachine.Machine

/-- Two machines differ by a step that faulted: nothing but the status, the counters and
the channel may have changed. -/
structure StoppedBy {χ : Type} (fault : Fault) (m m' : Machine χ) : Prop where
  status : m'.status = .faulted fault
  registers : m'.registers = m.registers
  memory : m'.memory = m.memory
  unfetched : m.memory.Beyond 0 m.pc → m'.pc = m.pc ∧ m'.steps = m.steps
  fetched : ¬ m.memory.Beyond 0 m.pc → m'.pc = m.pc + 1 ∧ m'.steps = m.steps + 1

theorem Transition.stoppedBy {χ : Type} [Channel χ] {m m' : Machine χ} {fault : Fault}
    (transition : Transition m (.error fault) m') : StoppedBy fault m m' := by
  cases transition with
  | fetchFault beyond =>
      exact ⟨rfl, rfl, rfl, fun _ => ⟨rfl, rfl⟩, fun within => absurd beyond within⟩
  | fault fetched =>
      have within : ¬ m.memory.Beyond 0 m.pc := Memory.not_beyond_of_read fetched
      exact ⟨rfl, rfl, rfl, fun beyond => absurd beyond within, fun _ => ⟨rfl, rfl⟩⟩

/-! ### Buffers -/

/-- A buffer refuses nothing, and flushing leaves it as it is. -/
theorem Idle.buffer_eq {b b' : Buffer} (idle : Idle b b') : b' = b := by
  cases idle with
  | write refused => cases refused
  | read refused =>
      simp only [Channel.read, Buffer.read] at refused
      split at refused <;> cases refused
  | flush => rfl

theorem buffer_eq_of_idle {b b' : Buffer} (idle : Relation.ReflTransGen Idle b b') :
    b' = b := by
  induction idle with
  | refl => rfl
  | tail _ last unchanged => exact last.buffer_eq.trans unchanged

theorem Transition.buffer_eq {m m' : Machine Buffer} {fault : Fault}
    (transition : Transition m (.error fault) m') : m'.channel = m.channel := by
  cases transition with
  | fetchFault => rfl
  | fault _ _ idle => exact buffer_eq_of_idle idle

/-! ### Atomicity -/

/-- Whatever the channel, a step of a running machine that faults leaves registers and
memory unchanged, and moves the counters by one if the instruction was fetched and not at
all otherwise. With a buffer the unread input and the output are unchanged, too. The count is
a number without a bound; `Proofs/Checked/Machine` relates it to one of sixty-four bits. -/
theorem faulting_step_atomic :
    (∀ (χ : Type) [Channel χ] (m m' : Machine χ) (fault : Fault),
      m.status = .running → m.step = (.error fault, m') → StoppedBy fault m m') ∧
    (∀ (m m' : Machine Buffer) (fault : Fault),
      m.status = .running → m.step = (.error fault, m') → m'.channel = m.channel) := by
  constructor
  · intro χ _ m m' fault running stepped
    exact (transition_of_step running stepped).stoppedBy
  · intro m m' fault running stepped
    exact (transition_of_step running stepped).buffer_eq

/-- Loading a program from the unmapped segment 7 does not jump to the offset 5. -/
theorem unmapped_program_keeps_counter :
    let m : Machine Buffer :=
      { Machine.start #[0xC000000A] {} with registers := #v[0, 7, 5, 0, 0, 0, 0, 0] }
    m.step.1 = .error (.segmentFault 7 0) ∧
      StoppedBy (.segmentFault 7 0) m m.step.2 ∧ m.step.2.channel = m.channel := by
  intro m
  have stepped : m.step = (.error (.segmentFault 7 0), m.step.2) := Prod.ext (by decide) rfl
  exact ⟨congrArg Prod.fst stepped, faulting_step_atomic.1 Buffer m _ _ rfl stepped,
    faulting_step_atomic.2 m _ _ rfl stepped⟩

end UniversalMachine.Machine
