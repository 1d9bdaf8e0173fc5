import UniversalMachine.Proofs.Checked.Memory
import UniversalMachine.Proofs.Machine.MemoryInvariant
import UniversalMachine.Proofs.Machine.StepLimit

/-!
A machine whose partial steps are checked: those of decoding and of memory, and the counts of
steps, which have to fit into sixty-four bits. The machines that a host can reach never meet a
check that fails, whatever their programs write over themselves; so they do without the checks
what they would do with them.
-/

namespace UniversalMachine.Machine

variable {χ : Type}

/-- Carries out an operation of the standard format. Those that have no partial step are
carried out as they are without checks. -/
def perform? [Channel χ] (m : Machine χ) (op : Operator) (o : Operands) :
    Option (Except Fault Flow × Machine χ) :=
  match op with
  | .mapSegment =>
      (m.memory.allocate? (m.registers.get o.c)).map fun (id, memory) =>
        (.ok .next, { m with memory }.assign o.b id)
  | .loadProgram =>
      (m.memory.loadProgram? (m.registers.get o.b)).map fun
        | (.ok (), memory) => (.ok .next, { m with memory, pc := m.registers.get o.c })
        | (.error fault, memory) => (.error fault, { m with memory })
  | _ => some (m.perform op o)

def execute? [Channel χ] (m : Machine χ) (word : Word) :
    Option (Except Fault Flow × Machine χ) := do
  match ← Instruction.decode? word with
  | .standard op operands => m.perform? op operands
  | .halt => some (.ok .halt, m)
  | .loadImmediate a value => some (.ok .next, m.assign a value)
  | .illegal code => some (.error (.illegalOpcode code word), m)

def advance? (m : Machine χ) : Option (Machine χ) :=
  (fits? 64 (m.steps + 1)).map fun steps => { m with pc := m.pc + 1, steps }

def step? [Channel χ] (m : Machine χ) : Option (Except Fault Status × Machine χ) :=
  match m.status with
  | .halted => some (.ok .halted, m)
  | .faulted fault => some (.error fault, m)
  | .running =>
      match m.memory.read 0 m.pc with
      | .error fault => some (m.stop fault)
      | .ok word => do
          match ← (← m.advance?).execute? word with
          | (.ok .next, m) => some (.ok .running, m)
          | (.ok .halt, m) => some m.halt
          | (.error fault, m) => some (m.stop fault)

/-- Goes on with a run that has taken the given number of steps already. -/
def runFrom? [Channel χ] (executed : ℕ) : ℕ → Machine χ →
    Option (Except Fault Status × Machine χ)
  | 0, m => some (.ok m.status, m)
  | limit + 1, m => do
      match ← m.step? with
      | (.ok .running, m) =>
          let executed ← fits? 64 (executed + 1)
          runFrom? executed limit m
      | stopped => some stopped

def run? [Channel χ] (limit : ℕ) (m : Machine χ) :
    Option (Except Fault Status × Machine χ) :=
  runFrom? 0 limit m

variable [Channel χ]

/-! ### One step -/

section
variable {m : Machine χ} (wf : m.memory.WellFormed) (few : m.memory.slots.size < 2 ^ 32)
include wf few

theorem perform?_eq (op : Operator) (o : Operands) :
    m.perform? op o = some (m.perform op o) := by
  cases op with
  | mapSegment =>
      simp only [perform?, perform, Memory.allocate?_eq wf few, Option.map_some]
  | loadProgram =>
      simp only [perform?, perform, withMemory, Memory.loadProgram?_eq wf, Option.map_some]
      obtain ⟨answer | answer, memory⟩ := m.memory.loadProgram (m.registers.get o.b) <;> rfl
  | conditionalMove | segmentLoad | segmentStore | add | multiply | divide | nand
  | unmapSegment | output | input => rfl

theorem execute?_eq (word : Word) : m.execute? word = some (m.execute word) := by
  simp only [execute?, execute, Instruction.decode?_eq, Option.bind_eq_bind, Option.bind_some]
  cases Instruction.decode word with
  | standard op o => exact perform?_eq wf few op o
  | halt | loadImmediate _ _ | illegal _ => rfl

end

theorem Transition.steps_eq_of_fetched {m m' : Machine χ} {answer : Except Fault Status}
    {word : Word} (transition : Transition m answer m')
    (fetched : m.memory.read 0 m.pc = .ok word) : m'.steps = m.steps + 1 := by
  cases transition with
  | next fetched executed => exact (Transition.next fetched executed).steps_eq
  | halt | fault => rfl
  | fetchFault beyond => exact absurd beyond (Memory.not_beyond_of_read fetched)

theorem step?_eq {m : Machine χ} (wf : m.memory.WellFormed)
    (few : m.memory.slots.size < 2 ^ 32) (counted : m.step.2.steps < 2 ^ 64) :
    m.step? = some m.step := by
  cases status : m.status with
  | halted => simp only [step?, step, status]
  | faulted fault => simp only [step?, step, status]
  | running =>
      cases fetched : m.memory.read 0 m.pc with
      | error fault => simp only [step?, step, status, fetched]
      | ok word =>
          rw [(transition status).steps_eq_of_fetched fetched] at counted
          have advanced : m.advance? = some m.advance := by
            rw [advance?, fits?_eq counted]
            rfl
          have executed : m.advance.execute? word = some (m.advance.execute word) :=
            execute?_eq (m := m.advance) wf few word
          simp only [step?, step, status, fetched, advanced, executed, Option.bind_eq_bind,
            Option.bind_some]
          generalize m.advance.execute word = result
          split <;> rfl

/-! ### Runs -/

theorem size_slots_le_iterate (m : Machine χ) (n : ℕ) :
    m.memory.slots.size ≤ (stepped^[n] m).memory.slots.size := by
  induction n with
  | zero => exact Nat.le_refl _
  | succ n ih =>
      rw [Function.iterate_succ_apply']
      exact Nat.le_trans ih (change_step _).size_le

/-- The count of a run is at most that of the machine, because a run counts only steps that
leave the machine running. -/
theorem runFrom?_eq {m : Machine χ} (wf : m.memory.WellFormed) {executed limit : ℕ}
    (le : executed ≤ m.steps) (few : (m.run limit).2.memory.slots.size < 2 ^ 32)
    (counted : (m.run limit).2.steps < 2 ^ 64) :
    runFrom? executed limit m = some (m.run limit) := by
  induction limit generalizing m executed with
  | zero => rfl
  | succ limit ih =>
      have last : (m.run (limit + 1)).2 = stepped^[limit] m.stepped := by
        rw [run_snd, Function.iterate_succ_apply]
      rw [last] at few counted
      have fewNow : m.memory.slots.size < 2 ^ 32 := by
        have slots := m.size_slots_le_iterate (limit + 1)
        rw [Function.iterate_succ_apply] at slots
        exact Nat.lt_of_le_of_lt slots few
      have countedNow : m.stepped.steps < 2 ^ 64 :=
        Nat.lt_of_le_of_lt (steps_iterate_le m.stepped limit).1 counted
      rw [runFrom?, step?_eq wf fewNow countedNow, step_eq, run_succ]
      cases status : m.stepped.status with
      | running =>
          have more : m.stepped.steps = m.steps + 1 :=
            steps_iterate_eq (n := 1) status
          have next : executed + 1 ≤ m.stepped.steps := by omega
          have rest := ih (wf.change (change_step m)) next (by rwa [← stepped, run_snd])
            (by rwa [← stepped, run_snd])
          simp only [Status.answer, Option.bind_eq_bind, Option.bind_some,
            fits?_eq (show executed + 1 < 2 ^ 64 by omega)]
          exact rest
      | halted | faulted =>
          simp only [Status.answer, Option.bind_eq_bind, Option.bind_some]
          rfl

/-- No check fails: not in decoding any word, not in any sequence of calls to a memory that
starts from a program, and not in a step or a run of a machine that a host can reach, as long
as the table has fewer than `2 ^ 32` slots and fewer than `2 ^ 64` steps are counted. A run
without a limit is, for as long as it lasts, one with a limit. -/
theorem checks_never_fail (program : Array Word) :
    (∀ w, Instruction.decode? w = some (Instruction.decode w)) ∧
    (∀ calls, (session Memory.serve (.ofProgram program) calls).2.slots.size < 2 ^ 32 →
      Memory.session? (.ofProgram program) calls =
        some (session Memory.serve (.ofProgram program) calls)) ∧
    ∀ {χ : Type} [Channel χ] {m : Machine χ}, Reachable program m →
      (m.step.2.memory.slots.size < 2 ^ 32 → m.step.2.steps < 2 ^ 64 →
        m.step? = some m.step) ∧
      ∀ limit, (m.run limit).2.memory.slots.size < 2 ^ 32 →
        (m.run limit).2.steps < 2 ^ 64 → m.run? limit = some (m.run limit) := by
  refine ⟨Instruction.decode?_eq, fun calls few => ?_, fun {χ _ m} reached => ?_⟩
  · exact Memory.session?_eq (Memory.wellFormed_ofProgram program) calls few
  · have wf := reached.wellFormed
    refine ⟨fun few counted => ?_, fun limit few counted => ?_⟩
    · exact step?_eq wf (Nat.lt_of_le_of_lt (change_step m).size_le few) counted
    · exact runFrom?_eq wf (Nat.zero_le _) few counted

/-- A program maps a segment, unmaps it, maps its id again, makes it the program and runs off
its end. -/
theorem recycled_program_passes_checks :
    let program : Array Word := #[0xD2000003, 0x80000011, 0x90000002, 0x80000011, 0xC0000010]
    let m : Machine Buffer := stepped (start program {})
    let calls : List UniversalMachine.Call :=
      [.allocate 3, .release 1, .allocate 2, .loadProgram 1, .release 1, .mappedCount]
    let answers : List Answer := [.id 1, .done, .id 1, .done, .done, .count 1]
    (Memory.session? (.ofProgram program) calls).map Prod.fst = some answers ∧
      m.step? = some m.step ∧
      (m.run? 10).map Prod.fst = some (.error (.segmentFault 0 3)) := by
  intro program m calls answers
  obtain ⟨-, served, ran⟩ := checks_never_fail program
  have reached : Reachable program m := (Reachable.start ({} : Buffer)).step
  obtain ⟨step_eq, run_eq⟩ := ran reached
  refine ⟨?_, step_eq (by decide) (by decide), ?_⟩
  · rw [served calls (by decide)]
    decide
  · rw [run_eq 10 (by decide) (by decide)]
    decide

end UniversalMachine.Machine
