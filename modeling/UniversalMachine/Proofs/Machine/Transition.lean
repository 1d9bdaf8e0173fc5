import Mathlib
import UniversalMachine.Machine.Run
import UniversalMachine.Memory.Lemmas
import UniversalMachine.Proofs.Instruction.Decode

/-!
What one step of a running machine can do. An instruction that faults has a cause that
can be read off its word, the registers and the memory, and it changes nothing but the
state of a channel that refused a request. A step is one of four transitions, and
`Machine.transition` is the only place that looks into the definition of a step.
-/

namespace UniversalMachine

/-- What makes the instruction of a word fault, given the registers and the memory that
it finds. -/
inductive Cause (registers : Registers) (memory : Memory) (word : Word) : Fault → Prop
  | illegalOpcode {code : UInt8} (code_eq : code.toUInt32 = word >>> 28)
      (unassigned : code = 14 ∨ code = 15) :
      Cause registers memory word (.illegalOpcode code word)
  | segmentLoad {o : Operands}
      (decoded : Instruction.decode word = .standard .segmentLoad o)
      (beyond : memory.Beyond (registers.get o.b) (registers.get o.c)) :
      Cause registers memory word (.segmentFault (registers.get o.b) (registers.get o.c))
  | segmentStore {o : Operands}
      (decoded : Instruction.decode word = .standard .segmentStore o)
      (beyond : memory.Beyond (registers.get o.a) (registers.get o.b)) :
      Cause registers memory word (.segmentFault (registers.get o.a) (registers.get o.b))
  | loadProgram {o : Operands}
      (decoded : Instruction.decode word = .standard .loadProgram o)
      (unmapped : memory.segment? (registers.get o.b) = none) :
      Cause registers memory word (.segmentFault (registers.get o.b) 0)
  | invalidSegment {o : Operands}
      (decoded : Instruction.decode word = .standard .unmapSegment o)
      (invalid : registers.get o.c = 0 ∨ memory.segment? (registers.get o.c) = none) :
      Cause registers memory word (.invalidSegment (registers.get o.c))
  | divisionByZero {o : Operands}
      (decoded : Instruction.decode word = .standard .divide o)
      (zero : registers.get o.c = 0) : Cause registers memory word .divisionByZero
  | outOfRange {o : Operands}
      (decoded : Instruction.decode word = .standard .output o)
      (large : 255 < (registers.get o.c).toNat) :
      Cause registers memory word (.outOfRange (registers.get o.c))
  | output {o : Operands} {reason : String}
      (decoded : Instruction.decode word = .standard .output o)
      (small : (registers.get o.c).toNat ≤ 255) : Cause registers memory word (.io reason)
  | input {o : Operands} {reason : String}
      (decoded : Instruction.decode word = .standard .input o) :
      Cause registers memory word (.io reason)
  | halt {reason : String} (decoded : Instruction.decode word = .halt) :
      Cause registers memory word (.io reason)

namespace Machine

variable {χ : Type}

theorem withMemory_of_ok {m : Machine χ} {change : Memory → Except Fault Unit × Memory}
    {memory : Memory} (h : change m.memory = (.ok (), memory)) :
    m.withMemory change = (.ok .next, { m with memory }) := by
  rw [withMemory, h]
  rfl

theorem withMemory_of_error {m : Machine χ} {change : Memory → Except Fault Unit × Memory}
    {memory : Memory} {fault : Fault} (h : change m.memory = (.error fault, memory)) :
    m.withMemory change = (.error fault, { m with memory }) := by
  rw [withMemory, h]
  rfl

theorem withMemory_ne_halt {m m' : Machine χ}
    {change : Memory → Except Fault Unit × Memory} :
    m.withMemory change ≠ (.ok .halt, m') := by
  cases changed : change m.memory with
  | mk answer memory =>
      cases answer with
      | ok _ =>
          rw [withMemory_of_ok changed]
          nofun
      | error _ =>
          rw [withMemory_of_error changed]
          nofun

variable [Channel χ]

/-- A request after which no byte has moved between a machine and its channel: one that
was refused, or a flush. -/
inductive Idle : χ → χ → Prop
  | write {c c' : χ} {byte : UInt8} {reason : String}
      (refused : Channel.write c byte = (.error reason, c')) : Idle c c'
  | read {c c' : χ} {reason : String}
      (refused : Channel.read c = (.error reason, c')) : Idle c c'
  | flush (c : χ) : Idle c (Channel.flush c).2

/-! ### Instructions -/

theorem perform_eq_error {m m' : Machine χ} {word : Word} {op : Operator} {o : Operands}
    {fault : Fault} (decoded : Instruction.decode word = .standard op o)
    (h : m.perform op o = (.error fault, m')) :
    Cause m.registers m.memory word fault ∧
      ∃ channel, Relation.ReflGen Idle m.channel channel ∧ m' = { m with channel } := by
  cases op with
  | conditionalMove | add | multiply | nand | mapSegment =>
      exact absurd (congrArg Prod.fst h) nofun
  | segmentLoad =>
      simp only [perform] at h
      obtain ⟨_, word, -, -, granted⟩ | ⟨beyond, refused⟩ :=
        m.memory.read_cases (m.registers.get o.b) (m.registers.get o.c)
      · rw [granted] at h
        exact absurd (congrArg Prod.fst h) nofun
      · rw [refused] at h
        cases h
        exact ⟨.segmentLoad decoded beyond, m.channel, .refl, rfl⟩
  | segmentStore =>
      simp only [perform] at h
      obtain ⟨_, -, -, granted⟩ | ⟨beyond, refused⟩ :=
        m.memory.write_cases (m.registers.get o.a) (m.registers.get o.b) (m.registers.get o.c)
      · rw [withMemory_of_ok granted] at h
        cases h
      · rw [withMemory_of_error refused] at h
        cases h
        exact ⟨.segmentStore decoded beyond, m.channel, .refl, rfl⟩
  | divide =>
      simp only [perform] at h
      split at h
      next zero =>
        cases h
        exact ⟨.divisionByZero decoded zero, m.channel, .refl, rfl⟩
      next => cases h
  | unmapSegment =>
      simp only [perform] at h
      obtain ⟨_, -, -, granted⟩ | ⟨invalid, refused⟩ :=
        m.memory.release_cases (m.registers.get o.c)
      · rw [withMemory_of_ok granted] at h
        cases h
      · rw [withMemory_of_error refused] at h
        cases h
        exact ⟨.invalidSegment decoded invalid, m.channel, .refl, rfl⟩
  | output =>
      simp only [perform] at h
      split at h
      next small =>
        have bound : (m.registers.get o.c).toNat < 256 := UInt32.lt_iff_toNat_lt.mp small
        split at h
        next => cases h
        next reason channel refused =>
          cases h
          exact ⟨.output decoded (Nat.le_of_lt_succ bound), channel,
            .single (.write refused), rfl⟩
      next large =>
        cases h
        have bound := (not_congr UInt32.lt_iff_toNat_lt).mp large
        exact ⟨.outOfRange decoded (Nat.not_lt.mp bound), m.channel, .refl, rfl⟩
  | input =>
      simp only [perform] at h
      split at h
      next => cases h
      next reason channel refused =>
        cases h
        exact ⟨.input decoded, channel, .single (.read refused), rfl⟩
  | loadProgram =>
      simp only [perform] at h
      by_cases zero : m.registers.get o.b = 0
      · -- The program is in place already, and all that is left is a jump.
        have kept : m.withMemory (·.loadProgram 0) = (.ok .next, m) :=
          withMemory_of_ok m.memory.loadProgram_zero
        rw [zero, kept] at h
        cases h
      · obtain ⟨_, -, granted⟩ | ⟨unmapped, refused⟩ := m.memory.loadProgram_cases zero
        · rw [withMemory_of_ok granted] at h
          cases h
        · rw [withMemory_of_error refused] at h
          cases h
          exact ⟨.loadProgram decoded unmapped, m.channel, .refl, rfl⟩

/-- An instruction that faults has a cause, and all that it may have changed is the state
of a channel that refused a request. -/
theorem execute_eq_error {m m' : Machine χ} {word : Word} {fault : Fault}
    (h : m.execute word = (.error fault, m')) :
    Cause m.registers m.memory word fault ∧
      ∃ channel, Relation.ReflGen Idle m.channel channel ∧ m' = { m with channel } := by
  rw [execute] at h
  split at h
  next op operands decoded => exact perform_eq_error decoded h
  next => cases h
  next => cases h
  next code decoded =>
    cases h
    obtain ⟨code_eq, unassigned⟩ := Instruction.decode_eq_illegal decoded
    exact ⟨.illegalOpcode code_eq unassigned, m.channel, .refl, rfl⟩

theorem perform_ne_halt (m m' : Machine χ) (op : Operator) (o : Operands) :
    m.perform op o ≠ (.ok .halt, m') := by
  intro h
  cases op with
  | conditionalMove | add | multiply | nand | mapSegment => cases h
  | segmentLoad =>
      simp only [perform] at h
      split at h <;> cases h
  | segmentStore | unmapSegment =>
      simp only [perform] at h
      exact withMemory_ne_halt h
  | divide =>
      simp only [perform] at h
      split at h <;> cases h
  | output =>
      simp only [perform] at h
      split at h
      · split at h <;> cases h
      · cases h
  | input =>
      simp only [perform] at h
      split at h <;> cases h
  | loadProgram =>
      simp only [perform] at h
      split at h
      next loaded =>
        cases h
        exact withMemory_ne_halt loaded
      next => exact withMemory_ne_halt h

theorem execute_eq_halt {m m' : Machine χ} {word : Word}
    (h : m.execute word = (.ok .halt, m')) : Instruction.decode word = .halt ∧ m' = m := by
  rw [execute] at h
  split at h
  next => exact (perform_ne_halt _ _ _ _ h).elim
  next decoded =>
    cases h
    exact ⟨decoded, rfl⟩
  next => cases h
  next => cases h

/-! ### Steps -/

/-- What a running machine answers to a step, and the machine that is left. -/
inductive Transition (m : Machine χ) : Except Fault Status → Machine χ → Prop
  | next {word : Word} {m' : Machine χ} (fetched : m.memory.read 0 m.pc = .ok word)
      (executed : m.advance.execute word = (.ok .next, m')) :
      Transition m (.ok .running) m'
  | halt {word : Word} {channel : χ} (fetched : m.memory.read 0 m.pc = .ok word)
      (decoded : Instruction.decode word = .halt)
      (flushed : Channel.flush m.channel = (.ok (), channel)) :
      Transition m (.ok .halted) { m.advance with status := .halted, channel }
  | fetchFault (beyond : m.memory.Beyond 0 m.pc) :
      Transition m (.error (.segmentFault 0 m.pc))
        { m with
          status := .faulted (.segmentFault 0 m.pc), channel := (Channel.flush m.channel).2 }
  | fault {word : Word} {fault : Fault} {channel : χ}
      (fetched : m.memory.read 0 m.pc = .ok word)
      (cause : Cause m.registers m.memory word fault)
      (idle : Relation.ReflTransGen Idle m.channel channel) :
      Transition m (.error fault) { m.advance with status := .faulted fault, channel }

theorem transition_halt {m : Machine χ} {word : Word}
    (fetched : m.memory.read 0 m.pc = .ok word) (decoded : Instruction.decode word = .halt) :
    Transition m m.advance.halt.1 m.advance.halt.2 := by
  cases flushed : Channel.flush m.advance.channel with
  | mk answer channel =>
      have first : Idle m.channel channel := by
        have idle := Idle.flush m.advance.channel
        rwa [flushed] at idle
      cases answer with
      | ok _ =>
          simp only [halt, flushed]
          exact .halt fetched decoded flushed
      | error reason =>
          simp only [halt, flushed]
          exact .fault fetched (.halt decoded)
            (Relation.ReflTransGen.single first |>.tail (.flush channel))

theorem transition {m : Machine χ} (running : m.status = .running) :
    Transition m m.step.1 m.step.2 := by
  obtain ⟨_, word, -, -, fetched⟩ | ⟨beyond, refused⟩ := m.memory.read_cases 0 m.pc
  · cases executed : m.advance.execute word with
    | mk answer m' =>
        cases answer with
        | ok flow =>
            cases flow with
            | next =>
                simp only [step, running, fetched, executed]
                exact .next fetched executed
            | halt =>
                obtain ⟨decoded, rfl⟩ := execute_eq_halt executed
                simp only [step, running, fetched, executed]
                exact transition_halt fetched decoded
        | error fault =>
            obtain ⟨cause, channel, idle, rfl⟩ := execute_eq_error executed
            simp only [step, running, fetched, executed]
            exact .fault fetched cause (idle.to_reflTransGen.tail (.flush channel))
  · simp only [step, running, refused]
    exact .fetchFault beyond

theorem transition_of_step {m m' : Machine χ} {answer : Except Fault Status}
    (running : m.status = .running) (stepped : m.step = (answer, m')) :
    Transition m answer m' := by
  have changed := transition running
  rwa [stepped] at changed

end Machine

end UniversalMachine
