import Mathlib
import UniversalMachine.Channel.Buffer
import UniversalMachine.Proofs.Machine.MemoryInvariant
import UniversalMachine.Proofs.Machine.StepLimit

/-!
A machine comes to the end of its program unless it loads one. As long as it does not, each
step moves the program counter by one word and leaves the number of words in segment 0 as it
is, whatever it does to the words themselves. So the words from the counter to the end of the
program bound the steps that are left.
-/

namespace UniversalMachine.Machine

variable {χ : Type} [Channel χ]

/-- A step that neither loads a program nor stops the machine brings the program counter one
word closer to the end of the program. -/
theorem pc_stepped {m : Machine χ} {size : ℕ} (wf : m.memory.WellFormed)
    (sized : m.memory.segmentSize? 0 = some size) (fits : size < 2 ^ 32)
    (other : m.nextOperator? ≠ some .loadProgram) (running : m.stepped.status = .running) :
    m.pc.toNat < size ∧ m.stepped.pc.toNat = m.pc.toNat + 1 ∧
      m.stepped.memory.segmentSize? 0 = some size := by
  have before := running_of_stepped running
  have transition := transition before
  rw [step_fst_eq_running_iff.mpr running, ← stepped] at transition
  cases transition with
  | @next word _ fetched executed =>
      have frame := frame_execute m.advance word
      rw [nextOperator?, next?_of_fetched before fetched, Option.bind_some] at other
      rw [executed] at frame
      have within : m.pc.toNat < size := by
        by_contra large
        refine Memory.not_beyond_of_read fetched fun words mapped => ?_
        rw [Memory.segmentSize?, mapped, Option.map_some] at sized
        exact Option.some.inj sized ▸ Nat.not_lt.mp large
      refine ⟨within, ?_, (frame.programSize other wf).trans sized⟩
      rw [frame.pc other]
      change (m.pc + 1).toNat = m.pc.toNat + 1
      rw [UInt32.toNat_add, UInt32.toNat_one]
      omega

/-- The words that are left of the program bound the number of steps before one that loads a
program or stops the machine. -/
theorem exists_loading_or_last {m : Machine χ} {size left : ℕ} (wf : m.memory.WellFormed)
    (sized : m.memory.segmentSize? 0 = some size) (fits : size < 2 ^ 32)
    (running : m.status = .running) (bound : size - m.pc.toNat = left) :
    ∃ k ≤ left, (stepped^[k] m).status = .running ∧
      ((stepped^[k] m).nextOperator? = some .loadProgram ∨
        (stepped^[k + 1] m).status ≠ .running) := by
  induction left generalizing m with
  | zero =>
      -- No word is left to fetch; so the next step stops the machine.
      refine ⟨0, Nat.le_refl 0, running, ?_⟩
      by_contra neither
      obtain ⟨other, going⟩ := not_or.mp neither
      have moved := pc_stepped wf sized fits other (not_not.mp going)
      omega
  | succ left ih =>
      by_cases first : m.nextOperator? = some .loadProgram ∨ m.stepped.status ≠ .running
      · exact ⟨0, Nat.zero_le _, running, first⟩
      · obtain ⟨other, going⟩ := not_or.mp first
        obtain ⟨-, moved, sized'⟩ := pc_stepped wf sized fits other (not_not.mp going)
        obtain ⟨k, le, found⟩ := ih (m := m.stepped) (wf.change (change_step m)) sized'
          (not_not.mp going) (by omega)
        exact ⟨k + 1, Nat.succ_le_succ le, found⟩

/-- A running machine with `size` words in segment 0 loads a program or stops within one
step more than there are words from its program counter on. A program from which none is
loaded in that many steps after its start has ended by then, also without a limit. -/
theorem progress_needs_loadProgram :
    (∀ {program : Array Word} {m : Machine χ} {size : ℕ}, Reachable program m →
      m.status = .running → m.memory.segmentSize? 0 = some size → size < 2 ^ 32 →
      ∃ k ≤ size - m.pc.toNat, (stepped^[k] m).status = .running ∧
        ((stepped^[k] m).nextOperator? = some .loadProgram ∨
          (stepped^[k + 1] m).status ≠ .running)) ∧
    ∀ {program : Array Word} {channel : χ}, program.size < 2 ^ 32 →
      (∀ k ≤ program.size, (stepped^[k] (start program channel)).nextOperator? ≠
        some .loadProgram) →
      ∃ k ≤ program.size, (start program channel).answer k ≠ .ok .running ∧
        ∃ result, ∀ fuel, program.size < fuel →
          (start program channel).runToEnd? fuel = some result := by
  constructor
  · intro program m size reached running sized fits
    exact exists_loading_or_last reached.wellFormed sized fits running rfl
  · intro program channel fits never
    have reached : Reachable program (start program channel) := .start channel
    have sized : (start program channel).memory.segmentSize? 0 = some program.size := rfl
    have bound : program.size - (start program channel).pc.toNat = program.size :=
      Nat.sub_zero _
    obtain ⟨k, le, -, found⟩ := exists_loading_or_last reached.wellFormed sized fits rfl bound
    have last := answer_ne_running_iff.mpr (found.resolve_left (never k le))
    exact ⟨k, le, last, _, fun fuel enough =>
      runToEnd?_eq_of_ended last (Nat.lt_of_le_of_lt le enough)⟩

/-- A program of four words that writes zero over its halting instruction ends within five
steps, because it loads no program. -/
theorem overwritten_halt_ends :
    let program : Array Word := #[0xD2000002, 0x2000000A, 0x70000000, 0x50000000]
    let m : Machine Buffer := stepped^[2] (start program {})
    (∃ k ≤ 4 - m.pc.toNat, (stepped^[k] m).status = .running ∧
      ((stepped^[k] m).nextOperator? = some .loadProgram ∨
        (stepped^[k + 1] m).status ≠ .running)) ∧
    ∃ result, ∀ fuel, program.size < fuel →
      (start program ({} : Buffer)).runToEnd? fuel = some result := by
  intro program m
  obtain ⟨within, ends⟩ := progress_needs_loadProgram (χ := Buffer)
  have reached : Reachable program m := reachable_iterate program ({} : Buffer) 2
  have running : m.status = .running := by decide
  have sized : m.memory.segmentSize? 0 = some 4 := by decide
  have never : ∀ k ≤ program.size, (stepped^[k] (start program ({} : Buffer))).nextOperator? ≠
      some .loadProgram := by decide
  have first := within reached running sized (by decide)
  have fits : program.size < 2 ^ 32 := by decide
  obtain ⟨-, -, -, result⟩ := ends fits never
  exact ⟨first, result⟩

end UniversalMachine.Machine
