import Mathlib
import UniversalMachine.Channel.Buffer
import UniversalMachine.Proofs.Abstract.Machine
import UniversalMachine.Proofs.Machine.Frame
import UniversalMachine.Proofs.Memory.Representation

/-!
When a machine with a buffer stands for an abstract machine, and that carrying out an
instruction keeps it so. Of the instructions only those that map a segment or replace the
program need the invariant of the segment table, and only the former need that there are
fewer segments than words.
-/

namespace UniversalMachine

open Memory (values)

/-- A machine holds what the abstract one holds, each number as a word or a byte. -/
structure Corresponds (m : Machine Buffer) (s : AbstractMachine) : Prop where
  registers : ∀ r : Register, s.registers r = (m.registers.get r).toNat
  segments : m.memory.Represents s.segments
  pc : s.pc = m.pc.toNat
  status : s.status = m.status
  input : s.input = m.channel.input.map UInt8.toNat
  output : s.output = m.channel.output.toList.map UInt8.toNat

/-- The start of the abstract machine that a program and a buffer stand for. -/
def AbstractMachine.ofProgram (program : Array Word) (buffer : Buffer) : AbstractMachine :=
  .start (values program) (buffer.input.map UInt8.toNat)
    (buffer.output.toList.map UInt8.toNat)

theorem corresponds_start (program : Array Word) (buffer : Buffer) :
    Corresponds (.start program buffer) (.ofProgram program buffer) where
  registers r := by
    change 0 = (Registers.zero.get r).toNat
    rw [Registers.zero, Vector.get_replicate, UInt32.toNat_zero]
  segments := Memory.represents_ofProgram program
  pc := rfl
  status := rfl
  input := rfl
  output := rfl

/-- The result of an instruction is that of the abstract machine `s`: a state that
corresponds, or a fault for the same reason that has changed nothing. -/
inductive Simulates (s : AbstractMachine) :
    Except Fault Flow × Machine Buffer → Except Fault AbstractMachine → Prop
  | next {m' : Machine Buffer} {s' : AbstractMachine} (h : Corresponds m' s') :
      Simulates s (.ok .next, m') (.ok s')
  | halt {m' : Machine Buffer} (h : Corresponds m' s) :
      Simulates s (.ok .halt, m') (.ok { s with status := .halted })
  | fault {m' : Machine Buffer} {fault : Fault} (h : Corresponds m' s) :
      Simulates s (.error fault, m') (.error fault)

namespace Corresponds

variable {m : Machine Buffer} {s : AbstractMachine} (h : Corresponds m s)
include h

theorem assign (r : Register) {value : Word} {number : ℕ} (same : number = value.toNat) :
    Corresponds (m.assign r value) (s.assign r number) := by
  refine { h with registers := fun r' => ?_ }
  simp only [Machine.get_assign, AbstractMachine.assign, Function.update_apply]
  split
  · exact same
  · exact h.registers r'

theorem advance (fits : m.pc.toNat + 1 < 2 ^ 32) : Corresponds m.advance s.advance := by
  refine { h with pc := ?_ }
  change s.pc + 1 = (m.pc + 1).toNat
  rw [UInt32.toNat_add, h.pc, UInt32.toNat_one, Nat.mod_eq_of_lt fits]

theorem withMemory (change : Memory → Except Fault Unit × Memory) {fault : Fault}
    {result : Option Segments} (agrees : m.memory.Agrees fault (change m.memory) result) :
    Simulates s (m.withMemory change) (s.withSegments fault result) := by
  obtain ⟨segments, granted, rfl, represents⟩ | ⟨refused, rfl⟩ := agrees
  · rw [Machine.withMemory_of_ok (Prod.ext granted rfl)]
    exact .next { h with segments := represents }
  · rw [Machine.withMemory_of_error refused]
    exact .fault h

theorem perform (wf : m.memory.WellFormed) (few : s.segments.keys.card < 2 ^ 32)
    (op : Operator) (o : Operands) : Simulates s (m.perform op o) (s.perform op o) := by
  simp only [AbstractMachine.perform, h.registers, Nat.toUInt32_eq, UInt32.ofNat_toNat]
  cases op with
  | conditionalMove =>
      simp only [Machine.perform, Word.toNat_eq_zero_iff]
      split
      · exact .next h
      · exact .next (h.assign o.a rfl)
  | segmentLoad =>
      simp only [Machine.perform]
      obtain ⟨word, found, found'⟩ | ⟨absent, absent'⟩ :=
        h.segments.read_cases (m.registers.get o.b) (m.registers.get o.c)
      · rw [found, found']
        exact .next (h.assign o.a rfl)
      · rw [absent, absent']
        exact .fault h
  | segmentStore =>
      exact h.withMemory
        (·.write (m.registers.get o.a) (m.registers.get o.b) (m.registers.get o.c))
        (h.segments.write _ _ _)
  | add => exact .next (h.assign o.a (UInt32.toNat_add _ _).symm)
  | multiply => exact .next (h.assign o.a (UInt32.toNat_mul _ _).symm)
  | divide =>
      simp only [Machine.perform, Word.toNat_eq_zero_iff]
      split
      · exact .fault h
      · exact .next (h.assign o.a (UInt32.toNat_div _ _).symm)
  | nand =>
      refine .next (h.assign o.a ?_)
      rw [UInt32.toNat_not, UInt32.toNat_and]
      rfl
  | mapSegment =>
      -- All ids below the least unmapped one are mapped, so few of them mean a small one.
      have fits : m.memory.nextSlot < 2 ^ 32 := by
        rw [← h.segments.leastUnmapped_eq wf]
        exact Nat.lt_of_le_of_lt s.segments.leastUnmapped_le_card few
      have mapped : Corresponds
          { m with memory := (m.memory.allocate (m.registers.get o.c)).2 }
          { s with segments := s.segments.allocate (m.registers.get o.c).toNat } :=
        { h with segments := h.segments.allocate wf (m.registers.get o.c) }
      exact .next (mapped.assign o.b (h.segments.allocate_fst wf _ fits).symm)
  | unmapSegment =>
      exact h.withMemory (·.release (m.registers.get o.c)) (h.segments.release _)
  | output =>
      have bound : m.registers.get o.c < 256 ↔ (m.registers.get o.c).toNat ≤ 255 :=
        UInt32.lt_iff_toNat_lt.trans Nat.lt_succ_iff
      simp only [Machine.perform, bound]
      split
      next small =>
        refine .next { h with output := ?_ }
        have byte : (m.registers.get o.c).toUInt8.toNat = (m.registers.get o.c).toNat := by
          rw [UInt32.toNat_toUInt8, Nat.mod_eq_of_lt (Nat.lt_succ_of_le small)]
        change s.output ++ [(m.registers.get o.c).toNat] =
          (m.channel.output.push (m.registers.get o.c).toUInt8).toList.map UInt8.toNat
        rw [Array.toList_push, List.map_append, List.map_singleton, byte, h.output]
      next => exact .fault h
  | input =>
      cases queue : m.channel.input with
      | nil =>
          have ended : s.input = [] := by rw [h.input, queue, List.map_nil]
          simp only [Machine.perform, Buffer.read_of_empty queue, ended]
          exact .next (h.assign o.c rfl)
      | cons byte rest =>
          have queued : s.input = byte.toNat :: rest.map UInt8.toNat := by
            rw [h.input, queue, List.map_cons]
          have taken : Corresponds { m with channel := { m.channel with input := rest } }
              { s with input := rest.map UInt8.toNat } := { h with input := rfl }
          simp only [Machine.perform, Buffer.read_of_queued queue, queued]
          exact .next (taken.assign o.c (UInt8.toNat_toUInt32 byte).symm)
  | loadProgram =>
      simp only [Machine.perform]
      obtain ⟨segments, granted, defined, represents⟩ | ⟨refused, undefined⟩ :=
        h.segments.loadProgram wf (m.registers.get o.b)
      · have loaded : m.withMemory (·.loadProgram (m.registers.get o.b)) =
            (.ok .next, { m with memory := (m.memory.loadProgram (m.registers.get o.b)).2 }) :=
          Machine.withMemory_of_ok (Prod.ext granted rfl)
        rw [loaded, defined]
        exact .next { h with segments := represents, pc := rfl }
      · rw [Machine.withMemory_of_error refused, undefined]
        exact .fault h

theorem execute (wf : m.memory.WellFormed) (few : s.segments.keys.card < 2 ^ 32)
    (word : Word) : Simulates s (m.execute word) (s.execute word.toNat) := by
  rw [AbstractMachine.execute, ← Instruction.decode_eq_ofNat, Machine.execute]
  cases Instruction.decode word with
  | standard op o => exact h.perform wf few op o
  | halt => exact .halt h
  | loadImmediate a value => exact .next (h.assign a rfl)
  | illegal code =>
      rw [Nat.toUInt32_eq, UInt32.ofNat_toNat]
      exact .fault h

end Corresponds

end UniversalMachine
