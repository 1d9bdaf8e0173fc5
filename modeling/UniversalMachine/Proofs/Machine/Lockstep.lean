import Mathlib
import UniversalMachine.Channel.Buffer
import UniversalMachine.Proofs.Machine.MemoryInvariant
import UniversalMachine.Proofs.Machine.StepLimit
import UniversalMachine.Proofs.Memory.ProgramText

/-!
Programs with the same text run in step with each other. An operation uses the registers that
its text names and no others, so machines whose programs differ only in what the text hides
carry out the same operations on the same values. They may part when one of them loads a word
of its own program into a register, for there the hidden bits show.
-/

namespace UniversalMachine

/-- The same status, or faults by words with the same illegal operation code. -/
inductive Status.Alike : Status → Status → Prop
  | refl (status : Status) : Alike status status
  | illegalOpcode (code : UInt8) (word word' : Word) :
      Alike (.faulted (.illegalOpcode code word)) (.faulted (.illegalOpcode code word'))

theorem Status.Alike.running_iff {s s' : Status} (alike : s.Alike s') :
    s = .running ↔ s' = .running := by
  cases alike <;> simp

namespace Machine

variable {χ : Type}

/-- Two machines that differ in nothing but what the text of their programs hides. -/
structure Alike (m m' : Machine χ) : Prop where
  registers : m.registers = m'.registers
  memory : m.memory.Alike m'.memory
  pc : m.pc = m'.pc
  status : m.status.Alike m'.status
  steps : m.steps = m'.steps
  channel : m.channel = m'.channel

/-- The same answer, with machines left that are alike. -/
structure Agree (r r' : Except Fault Flow × Machine χ) : Prop where
  answer : r.1 = r'.1
  left : r.2.Alike r'.2

/-- The operands of the next step, if it is to load a word from a segment. -/
def loadOperands? (m : Machine χ) : Option Operands :=
  m.next?.bind fun
    | .standard .segmentLoad o => some o
    | _ => none

/-- The next step loads a word of the program into a register. -/
def ReadsProgram (m : Machine χ) : Prop :=
  ∃ o ∈ m.loadOperands?, m.registers.get o.b = 0 ∧
    (m.memory.read 0 (m.registers.get o.c)).isOk

instance (m : Machine χ) : Decidable m.ReadsProgram :=
  inferInstanceAs (Decidable (∃ o ∈ m.loadOperands?, _))

namespace Alike

variable {m m' : Machine χ} (alike : m.Alike m')
include alike

theorem assign (r : Register) (value : Word) : (m.assign r value).Alike (m'.assign r value) :=
  { alike with registers := by rw [Machine.assign, Machine.assign, alike.registers] }

theorem advance : m.advance.Alike m'.advance :=
  { alike with
    pc := congrArg (· + 1) alike.pc
    steps := congrArg (· + 1) alike.steps }

theorem withMemory (change : Memory → Except Fault Unit × Memory)
    (answered : (change m.memory).1 = (change m'.memory).1 ∧
      (change m.memory).2.Alike (change m'.memory).2) :
    Agree (m.withMemory change) (m'.withMemory change) where
  answer := congrArg (Except.map fun _ => Flow.next) answered.1
  left := { alike with memory := answered.2 }

end Alike

variable [Channel χ]

/-- An operation uses no register that its text does not name. -/
theorem perform_congr (m : Machine χ) {op : Operator} {o o' : Operands}
    (used : op.registers o = op.registers o') : m.perform op o = m.perform op o' := by
  cases op <;>
    simp only [Operator.registers, List.cons.injEq, and_true] at used <;>
    simp only [perform, used]

namespace Alike

variable {m m' : Machine χ} (alike : m.Alike m')
include alike

theorem stop {fault fault' : Fault} (faults : Status.Alike (.faulted fault) (.faulted fault')) :
    (m.stop fault).2.Alike (m'.stop fault').2 :=
  { alike with
    status := faults
    channel := by rw [Machine.stop, Machine.stop, alike.channel] }

theorem halt : m.halt.2.Alike m'.halt.2 := by
  rw [Machine.halt, Machine.halt, ← alike.channel]
  split
  next => exact { alike with status := .refl _, channel := rfl }
  next reason channel _ =>
    have left : Alike { m with channel } { m' with channel } := { alike with channel := rfl }
    exact left.stop (.refl _)

theorem perform (wf : m.memory.WellFormed) (wf' : m'.memory.WellFormed) {op : Operator}
    {o : Operands}
    (apart : op = .segmentLoad → m.registers.get o.b = 0 →
      ∀ word, m.memory.read 0 (m.registers.get o.c) ≠ .ok word) :
    Agree (m.perform op o) (m'.perform op o) := by
  cases op with
  | add | multiply | nand =>
      simp only [Machine.perform, ← alike.registers]
      exact ⟨rfl, alike.assign ..⟩
  | conditionalMove =>
      simp only [Machine.perform, ← alike.registers]
      split
      · exact ⟨rfl, alike⟩
      · exact ⟨rfl, alike.assign ..⟩
  | divide =>
      simp only [Machine.perform, ← alike.registers]
      split
      · exact ⟨rfl, alike⟩
      · exact ⟨rfl, alike.assign ..⟩
  | segmentLoad =>
      have answer : m.memory.read (m.registers.get o.b) (m.registers.get o.c) =
          m'.memory.read (m.registers.get o.b) (m.registers.get o.c) := by
        by_cases zero : m.registers.get o.b = 0
        -- All that can be read from segment 0 here is that the offset is beyond it.
        · rw [zero]
          obtain ⟨word, _, granted, -⟩ | ⟨refused, refused'⟩ :=
            alike.memory.fetch_cases (m.registers.get o.c)
          · exact absurd granted (apart rfl zero word)
          · rw [refused, refused']
        · exact alike.memory.read_eq zero _
      simp only [Machine.perform, ← alike.registers, ← answer]
      split
      · exact ⟨rfl, alike.assign ..⟩
      · exact ⟨rfl, alike⟩
  | segmentStore =>
      simp only [Machine.perform, ← alike.registers]
      exact alike.withMemory _ (alike.memory.write wf ..)
  | unmapSegment =>
      simp only [Machine.perform, ← alike.registers]
      exact alike.withMemory _ (alike.memory.release wf _)
  | mapSegment =>
      obtain ⟨id, memory⟩ := alike.memory.allocate wf wf' (m.registers.get o.c)
      have mapped : Alike { m with memory := (m.memory.allocate (m.registers.get o.c)).2 }
          { m' with
            registers := m.registers
            memory := (m'.memory.allocate (m.registers.get o.c)).2 } :=
        { alike with registers := rfl, memory }
      simp only [Machine.perform, ← alike.registers, ← id]
      exact ⟨rfl, mapped.assign ..⟩
  | output =>
      have used {channel : χ} : Alike { m with channel }
          { m' with registers := m.registers, channel } :=
        { alike with registers := rfl, channel := rfl }
      simp only [Machine.perform, ← alike.registers, ← alike.channel]
      split
      · split <;> exact ⟨rfl, used⟩
      · exact ⟨rfl, alike⟩
  | input =>
      have used {channel : χ} : Alike { m with channel }
          { m' with registers := m.registers, channel } :=
        { alike with registers := rfl, channel := rfl }
      simp only [Machine.perform, ← alike.registers, ← alike.channel]
      split
      · exact ⟨rfl, used.assign ..⟩
      · exact ⟨rfl, used⟩
  | loadProgram =>
      have loaded := alike.withMemory (·.loadProgram (m.registers.get o.b))
        (alike.memory.loadProgram wf _)
      simp only [Machine.perform, ← alike.registers]
      generalize m.withMemory _ = r, m'.withMemory _ = r' at loaded ⊢
      obtain ⟨answer, n⟩ := r
      obtain ⟨answer', n'⟩ := r'
      obtain rfl : answer = answer' := loaded.answer
      cases answer with
      | ok flow => exact ⟨rfl, { loaded.left with pc := rfl }⟩
      | error fault => exact loaded

theorem stepped_of_agree {word word' : Word} (running : m.status = .running)
    (fetched : m.memory.read 0 m.pc = .ok word) (fetched' : m'.memory.read 0 m'.pc = .ok word')
    (agree : Agree (m.advance.execute word) (m'.advance.execute word')) :
    m.stepped.Alike m'.stepped := by
  have running' := alike.status.running_iff.mp running
  simp only [Machine.stepped, step, running, running', fetched, fetched']
  generalize m.advance.execute word = r, m'.advance.execute word' = r' at agree ⊢
  obtain ⟨answer, n⟩ := r
  obtain ⟨answer', n'⟩ := r'
  obtain rfl : answer = answer' := agree.answer
  cases answer with
  | ok flow =>
      cases flow with
      | next => exact agree.left
      | halt => exact agree.left.halt
  | error fault => exact agree.left.stop (.refl _)

/-- Machines that are alike stay alike as long as the first does not read its program. -/
theorem stepped (wf : m.memory.WellFormed) (wf' : m'.memory.WellFormed)
    (apart : ¬ m.ReadsProgram) : m.stepped.Alike m'.stepped := by
  by_cases running : m.status = .running
  · have running' := alike.status.running_iff.mp running
    obtain ⟨word, word', fetched, fetched', same⟩ | ⟨refused, refused'⟩ :=
      alike.memory.fetch_cases m.pc
    · have next := next?_of_fetched running fetched
      rw [alike.pc] at fetched'
      have texts := Instruction.text_eq_iff.mp same
      generalize decoded : Instruction.decode word = i,
        decoded' : Instruction.decode word' = i' at texts
      cases texts with
      | @standard op o o' used =>
          refine alike.stepped_of_agree running fetched fetched' ?_
          simp only [execute, decoded, decoded', perform_congr _ used.symm]
          refine alike.advance.perform wf wf' fun load zero loaded granted => apart ?_
          rw [decoded, load] at next
          refine ⟨o, by rw [loadOperands?, next]; rfl, zero, ?_⟩
          exact congrArg Except.isOk granted
      | halt =>
          refine alike.stepped_of_agree running fetched fetched' ?_
          simp only [execute, decoded, decoded']
          exact ⟨rfl, alike.advance⟩
      | loadImmediate a value =>
          refine alike.stepped_of_agree running fetched fetched' ?_
          simp only [execute, decoded, decoded']
          exact ⟨rfl, alike.advance.assign a value⟩
      | illegal code =>
          -- The one place where hidden bits get into the state: the fault keeps its word.
          have executed : m.advance.execute word =
              (.error (.illegalOpcode code word), m.advance) := by
            simp only [execute, decoded]
          have executed' : m'.advance.execute word' =
              (.error (.illegalOpcode code word'), m'.advance) := by
            simp only [execute, decoded']
          rw [Machine.stepped, Machine.stepped, step_of_fault running fetched executed,
            step_of_fault running' fetched' executed']
          exact alike.advance.stop (.illegalOpcode code word word')
    · rw [alike.pc] at refused refused'
      simp only [Machine.stepped, step, running, running', alike.pc, refused, refused']
      exact alike.stop (.refl _)
  · have stopped := fun h => running (alike.status.running_iff.mpr h)
    rw [stepped_of_stopped running, stepped_of_stopped stopped]
    exact alike

end Alike

/-- Two programs with the same text leave machines that are alike after any number of steps
in which no word of the program is loaded into a register. -/
theorem same_text_same_behaviour {program program' : Array Word}
    (same : Disassembly.texts program = Disassembly.texts program') (channel : χ) (n : ℕ)
    (apart : ∀ k < n, ¬ (stepped^[k] (start program channel)).ReadsProgram) :
    (stepped^[n] (start program channel)).Alike (stepped^[n] (start program' channel)) := by
  induction n with
  | zero => exact ⟨rfl, .of_texts same, rfl, .refl _, rfl, rfl⟩
  | succ n ih =>
      have before := ih fun k lt => apart k (Nat.lt_succ_of_lt lt)
      have wf := (reachable_iterate program channel n).wellFormed
      have wf' := (reachable_iterate program' channel n).wellFormed
      rw [Function.iterate_succ_apply', Function.iterate_succ_apply']
      exact before.stepped wf wf' (apart n (Nat.lt_succ_self n))

/-- Five words of the second program have other bits where the text shows none. The
programs map a segment, load from it, write, store into themselves, and fault by words that
have only their operation code in common. -/
theorem hidden_bits_without_effect :
    let program : Array Word := #[0xD2000001, 0x80000011, 0x100000D0, 0xA0000002, 0x2000000A,
      0xE0000000]
    let program' : Array Word := #[0xD2000001, 0x8FFFFFD1, 0x1ABCD0D0, 0xA00001FA, 0x2FFFFE0A,
      0xE1234567]
    let m : Machine Buffer := stepped^[6] (start program {})
    let m' : Machine Buffer := stepped^[6] (start program' {})
    Disassembly.texts program = Disassembly.texts program' ∧
      (∀ k < 6, ¬ (stepped^[k] (start program ({} : Buffer))).ReadsProgram) ∧
      m.Alike m' ∧ m.status = .faulted (.illegalOpcode 14 0xE0000000) ∧
      m'.status = .faulted (.illegalOpcode 14 0xE1234567) := by
  intro program program' m m'
  have same : Disassembly.texts program = Disassembly.texts program' := by decide +kernel
  have apart : ∀ k < 6, ¬ (stepped^[k] (start program ({} : Buffer))).ReadsProgram := by decide
  have alike : m.Alike m' := same_text_same_behaviour same ({} : Buffer) 6 apart
  exact ⟨same, apart, alike, by decide, by decide⟩

end Machine

end UniversalMachine
