import Mathlib
import UniversalMachine.Proofs.Abstract.Correspondence
import UniversalMachine.Proofs.Machine.MemoryInvariant

/-!
The machine simulates the abstract machine, step by step and hence for any number of steps.
The counter of the abstract machine does not wrap around, and that of the machine never
comes to: an instruction can only be fetched from an offset below the length of segment 0,
and no segment is longer than a word can count.
-/

namespace UniversalMachine

/-! ### One step -/

section
variable {m : Machine Buffer} {s : AbstractMachine} (h : Corresponds m s)
include h

/-- Either both fetch the same word, and its instruction is simulated, or neither does. -/
theorem Corresponds.fetch_cases (wf : m.memory.WellFormed) (short : m.memory.Short)
    (few : s.segments.keys.card < 2 ^ 32) :
    (∃ word, m.memory.read 0 m.pc = .ok word ∧
        s.segments.read? 0 s.pc = some word.toNat ∧
        Simulates s.advance (m.advance.execute word) (s.advance.execute word.toNat)) ∨
      m.memory.read 0 m.pc = .error (.segmentFault 0 m.pc) ∧
        s.segments.read? 0 s.pc = none := by
  have fetch := h.segments.read_cases 0 m.pc
  rw [UInt32.toNat_zero, ← h.pc] at fetch
  refine fetch.imp_left fun ⟨word, fetched, fetched'⟩ => ⟨word, fetched, fetched', ?_⟩
  -- The counter does not wrap, because there is a word of a short segment before it.
  have advanced := h.advance (short.succ_lt_of_read fetched)
  exact advanced.execute wf few word

theorem Corresponds.step (wf : m.memory.WellFormed) (short : m.memory.Short)
    (few : s.segments.keys.card < 2 ^ 32) : Corresponds m.stepped s.step := by
  rw [Machine.stepped]
  cases status : m.status with
  | halted =>
      simp only [Machine.step_of_halted status, AbstractMachine.step, h.status, status]
      exact h
  | faulted fault =>
      simp only [Machine.step_of_faulted status, AbstractMachine.step, h.status, status]
      exact h
  | running =>
      obtain ⟨word, fetched, fetched', simulated⟩ | ⟨refused, absent⟩ :=
        h.fetch_cases wf short few
      · simp only [Machine.step, AbstractMachine.step, h.status, status, fetched, fetched']
        generalize m.advance.execute word = result at simulated ⊢
        generalize s.advance.execute word.toNat = result' at simulated ⊢
        cases simulated with
        | next h' => exact h'
        | halt h' | fault h' => exact { h' with status := rfl }
      · have reason : s.pc.toUInt32 = m.pc := by
          rw [h.pc, Nat.toUInt32_eq, UInt32.ofNat_toNat]
        simp only [Machine.step, AbstractMachine.step, h.status, status, refused, absent, reason]
        exact { h with status := rfl }

/-- A step of a running machine faults exactly if the abstract machine is stuck. -/
theorem Corresponds.step_eq_error_iff (wf : m.memory.WellFormed) (short : m.memory.Short)
    (few : s.segments.keys.card < 2 ^ 32) (running : m.status = .running) :
    (∃ fault, m.step.1 = .error fault) ↔ s.Stuck := by
  obtain ⟨word, fetched, fetched', simulated⟩ | ⟨refused, absent⟩ :=
    h.fetch_cases wf short few
  · have failing : (∃ fault, m.step.1 = .error fault) ↔
        ∃ reason, s.advance.execute word.toNat = .error reason := by
      simp only [Machine.step, running, fetched]
      generalize m.advance.execute word = result at simulated ⊢
      generalize s.advance.execute word.toNat = result' at simulated ⊢
      cases simulated with
      | next | halt =>
          refine iff_of_false ?_ ?_
          · rintro ⟨fault, answer⟩
            cases answer
          · rintro ⟨reason, answer⟩
            cases answer
      | fault => exact iff_of_true ⟨_, rfl⟩ ⟨_, rfl⟩
    rw [failing, AbstractMachine.execute_eq_error_iff word.toNat_lt]
    constructor
    · intro undefined
      exact .inr ⟨word.toNat, fetched', undefined⟩
    · rintro (absent | ⟨other, found, undefined⟩)
      · cases fetched'.symm.trans absent
      · obtain rfl := Option.some.inj (fetched'.symm.trans found)
        exact undefined
  · simp only [Machine.step, running, refused]
    exact iff_of_true ⟨_, rfl⟩ (.inl absent)

end

/-! ### Any number of steps -/

namespace Machine

/-- After any number of steps the machine stands for the abstract machine after as many
transitions. Its next step faults exactly if the abstract machine is stuck there. -/
theorem simulates_abstract_machine {program : Array Word} {buffer : Buffer} {n : ℕ}
    (fits : program.size < 2 ^ 32)
    (few : ∀ k ≤ n, (stepped^[k] (start program buffer)).memory.mappedCount < 2 ^ 32) :
    Corresponds (stepped^[n] (start program buffer))
        (AbstractMachine.step^[n] (.ofProgram program buffer)) ∧
      ((stepped^[n] (start program buffer)).status = .running →
        ((∃ fault, (stepped^[n] (start program buffer)).step.1 = .error fault) ↔
          (AbstractMachine.step^[n] (.ofProgram program buffer)).Stuck)) := by
  have reached (k : ℕ) := reachable_iterate program buffer k
  have card {k : ℕ} (le : k ≤ n) {s : AbstractMachine}
      (h : Corresponds (stepped^[k] (start program buffer)) s) :
      s.segments.keys.card < 2 ^ 32 := by
    rw [h.segments.card_keys (reached k).wellFormed]
    exact few k le
  -- Step `k + 1` needs the bound on the segments that are mapped before it.
  have corresponds (k : ℕ) (le : k ≤ n) : Corresponds (stepped^[k] (start program buffer))
      (AbstractMachine.step^[k] (.ofProgram program buffer)) := by
    induction k with
    | zero => exact corresponds_start program buffer
    | succ k ih =>
        have h := ih (Nat.le_of_succ_le le)
        rw [Function.iterate_succ_apply', Function.iterate_succ_apply']
        exact h.step (reached k).wellFormed ((reached k).short fits)
          (card (Nat.le_of_succ_le le) h)
  have h := corresponds n (Nat.le_refl n)
  exact ⟨h, h.step_eq_error_iff (reached n).wellFormed ((reached n).short fits)
    (card (Nat.le_refl n) h)⟩

/-- A program that maps a segment, writes to it and reads back, unmaps it and reads again:
on paper, too, it has put out what it wrote and is stuck at the last read. -/
theorem stale_read_on_paper :
    let program : Array Word := #[0xD2000003, 0x80000011, 0x20000081, 0x100000D0, 0xA0000003,
      0x90000002, 0x10000110]
    let s := AbstractMachine.step^[6] (.ofProgram program {})
    s.output = [3] ∧ 1 ∉ s.segments ∧ s.Stuck := by
  intro program s
  have fits : program.size < 2 ^ 32 := by decide
  have few : ∀ k ≤ 6, (stepped^[k] (start program ({} : Buffer))).memory.mappedCount < 2 ^ 32 :=
    by decide
  have unmapped : (stepped^[6] (start program ({} : Buffer))).memory.contents? 1 = none := by
    decide
  have faults : ∃ fault, (stepped^[6] (start program ({} : Buffer))).step.1 = .error fault :=
    ⟨.segmentFault 1 0, by decide⟩
  obtain ⟨h, stuck⟩ := simulates_abstract_machine fits few
  refine ⟨h.output.trans (by decide), ?_, (stuck (by decide)).mp faults⟩
  rw [h.segments.mem_iff, unmapped]
  nofun

end Machine

end UniversalMachine
