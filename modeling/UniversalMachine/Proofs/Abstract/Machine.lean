import Mathlib
import UniversalMachine.Machine.Basic
import UniversalMachine.Proofs.Instruction.Decode
import UniversalMachine.Proofs.Memory.Segments

/-!
The machine on paper. Registers, words, ids, offsets and bytes are natural numbers, memory
is a finite map, input and output are lists, and the program counter does not wrap around.
The one place where a word has a size is arithmetic, which is modulo `2 ^ 32`.

An instruction that has no meaning in a state is undefined there. The machine then stops
and keeps the reason.
-/

namespace UniversalMachine

structure AbstractMachine where
  registers : Register → ℕ := fun _ => 0
  segments : Segments
  pc : ℕ := 0
  status : Status := .running
  /-- What is still to be read, the next byte first. -/
  input : List ℕ := []
  /-- What has been written, the oldest byte first. -/
  output : List ℕ := []

namespace AbstractMachine

def start (program input output : List ℕ) : AbstractMachine :=
  { segments := .ofProgram program, input, output }

def assign (s : AbstractMachine) (r : Register) (value : ℕ) : AbstractMachine :=
  { s with registers := Function.update s.registers r value }

def advance (s : AbstractMachine) : AbstractMachine :=
  { s with pc := s.pc + 1 }

/-- A change of memory, which is undefined with the given reason where it has no result. -/
def withSegments (s : AbstractMachine) (reason : Fault) :
    Option Segments → Except Fault AbstractMachine
  | some segments => .ok { s with segments }
  | none => .error reason

def perform (s : AbstractMachine) (op : Operator) (o : Operands) :
    Except Fault AbstractMachine :=
  let a := s.registers o.a
  let b := s.registers o.b
  let c := s.registers o.c
  match op with
  | .conditionalMove => .ok (if c = 0 then s else s.assign o.a b)
  | .segmentLoad =>
      match s.segments.read? b c with
      | some word => .ok (s.assign o.a word)
      | none => .error (.segmentFault b.toUInt32 c.toUInt32)
  | .segmentStore =>
      s.withSegments (.segmentFault a.toUInt32 b.toUInt32) (s.segments.write? a b c)
  | .add => .ok (s.assign o.a ((b + c) % 2 ^ 32))
  | .multiply => .ok (s.assign o.a (b * c % 2 ^ 32))
  | .divide => if c = 0 then .error .divisionByZero else .ok (s.assign o.a (b / c))
  | .nand => .ok (s.assign o.a (2 ^ 32 - 1 - (b &&& c)))
  | .mapSegment =>
      .ok ({ s with segments := s.segments.allocate c }.assign o.b s.segments.leastUnmapped)
  | .unmapSegment => s.withSegments (.invalidSegment c.toUInt32) (s.segments.release? c)
  | .output =>
      if c ≤ 255 then .ok { s with output := s.output ++ [c] }
      else .error (.outOfRange c.toUInt32)
  | .input =>
      match s.input with
      | byte :: rest => .ok ({ s with input := rest }.assign o.c byte)
      | [] => .ok (s.assign o.c (2 ^ 32 - 1))
  | .loadProgram =>
      (s.withSegments (.segmentFault b.toUInt32 0) (s.segments.loadProgram? b)).map
        fun s' => { s' with pc := c }

def execute (s : AbstractMachine) (word : ℕ) : Except Fault AbstractMachine :=
  match Instruction.ofNat word with
  | .standard op operands => s.perform op operands
  | .halt => .ok { s with status := .halted }
  | .loadImmediate a value => .ok (s.assign a value.toNat)
  | .illegal code => .error (.illegalOpcode code word.toUInt32)

/-- The counter is moved on before the instruction is carried out, and stays there if the
instruction is undefined. -/
def step (s : AbstractMachine) : AbstractMachine :=
  match s.status with
  | .running =>
      match s.segments.read? 0 s.pc with
      | none => { s with status := .faulted (.segmentFault 0 s.pc.toUInt32) }
      | some word =>
          match s.advance.execute word with
          | .ok s' => s'
          | .error reason => { s.advance with status := .faulted reason }
  | .halted | .faulted _ => s

/-! ### Undefined instructions -/

/-- The instructions that have no meaning with given registers and segments. -/
inductive Undefined (registers : Register → ℕ) (segments : Segments) : Instruction → Prop
  | illegal {code : UInt8} (unassigned : code = 14 ∨ code = 15) :
      Undefined registers segments (.illegal code)
  | segmentLoad {o : Operands}
      (outside : segments.read? (registers o.b) (registers o.c) = none) :
      Undefined registers segments (.standard .segmentLoad o)
  | segmentStore {o : Operands}
      (outside : segments.read? (registers o.a) (registers o.b) = none) :
      Undefined registers segments (.standard .segmentStore o)
  | divide {o : Operands} (zero : registers o.c = 0) :
      Undefined registers segments (.standard .divide o)
  | unmapSegment {o : Operands} (invalid : registers o.c = 0 ∨ registers o.c ∉ segments) :
      Undefined registers segments (.standard .unmapSegment o)
  | output {o : Operands} (large : 255 < registers o.c) :
      Undefined registers segments (.standard .output o)
  | loadProgram {o : Operands} (nonzero : registers o.b ≠ 0)
      (unmapped : registers o.b ∉ segments) :
      Undefined registers segments (.standard .loadProgram o)

/-- The machine cannot go on: there is no instruction at its counter, or an undefined one. -/
def Stuck (s : AbstractMachine) : Prop :=
  s.segments.read? 0 s.pc = none ∨
    ∃ word, s.segments.read? 0 s.pc = some word ∧
      Undefined s.registers s.segments (Instruction.ofNat word)

theorem withSegments_eq_error_iff {s : AbstractMachine} {reason : Fault}
    {change : Option Segments} :
    (∃ fault, s.withSegments reason change = .error fault) ↔ change = none := by
  cases change with
  | none => exact iff_of_true ⟨reason, rfl⟩ rfl
  | some segments => exact iff_of_false nofun nofun

theorem perform_eq_error_iff {s : AbstractMachine} {op : Operator} {o : Operands} :
    (∃ reason, s.perform op o = .error reason) ↔
      Undefined s.registers s.segments (.standard op o) := by
  cases op with
  | conditionalMove | add | multiply | nand | mapSegment =>
      exact iff_of_false nofun nofun
  | segmentLoad =>
      simp only [perform]
      split
      next word inside =>
        refine iff_of_false nofun fun undefined => ?_
        cases undefined with
        | segmentLoad outside => cases inside.symm.trans outside
      next outside => exact iff_of_true ⟨_, rfl⟩ (.segmentLoad outside)
  | segmentStore =>
      rw [perform, withSegments_eq_error_iff, Segments.write?_eq_none_iff]
      exact ⟨.segmentStore, fun | .segmentStore outside => outside⟩
  | divide =>
      simp only [perform]
      split
      next zero => exact iff_of_true ⟨_, rfl⟩ (.divide zero)
      next nonzero => exact iff_of_false nofun fun | .divide zero => nonzero zero
  | unmapSegment =>
      rw [perform, withSegments_eq_error_iff, Segments.release?_eq_none_iff]
      exact ⟨.unmapSegment, fun | .unmapSegment invalid => invalid⟩
  | output =>
      simp only [perform]
      split
      next small =>
        exact iff_of_false nofun fun | .output large => Nat.not_lt.mpr small large
      next large => exact iff_of_true ⟨_, rfl⟩ (.output (Nat.not_le.mp large))
  | input =>
      simp only [perform]
      split <;> exact iff_of_false nofun nofun
  | loadProgram =>
      -- The jump that follows is always defined.
      have mapped : (∃ reason, s.perform .loadProgram o = .error reason) ↔
          s.segments.loadProgram? (s.registers o.b) = none := by
        simp only [perform]
        cases s.segments.loadProgram? (s.registers o.b) with
        | none => exact iff_of_true ⟨_, rfl⟩ rfl
        | some segments => exact iff_of_false nofun nofun
      rw [mapped, Segments.loadProgram?_eq_none_iff]
      exact ⟨fun ⟨nonzero, unmapped⟩ => .loadProgram nonzero unmapped,
        fun | .loadProgram nonzero unmapped => ⟨nonzero, unmapped⟩⟩

theorem execute_eq_error_iff {s : AbstractMachine} {word : ℕ} (fits : word < 2 ^ 32) :
    (∃ reason, s.execute word = .error reason) ↔
      Undefined s.registers s.segments (Instruction.ofNat word) := by
  rw [execute]
  split
  next op o decoded =>
    rw [decoded]
    exact perform_eq_error_iff
  next decoded =>
    rw [decoded]
    exact iff_of_false nofun nofun
  next decoded =>
    rw [decoded]
    exact iff_of_false nofun nofun
  next code decoded =>
    rw [decoded]
    exact iff_of_true ⟨_, rfl⟩ (.illegal (Instruction.ofNat_eq_illegal fits decoded).2)

end AbstractMachine

end UniversalMachine
