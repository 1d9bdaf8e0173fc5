import UniversalMachine.Machine.Basic

/-!
One step of a machine.

A step fetches the word at the program counter, moves the counter on, counts the
instruction and carries it out. An instruction that faults changes neither registers
nor memory; a fetch that faults does not even move the counter. On leaving the
running state the machine flushes its channel: a refusal turns halting into a fault and
is ignored when a fault is being recorded. A machine that has stopped stays as it is.
-/

namespace UniversalMachine

inductive Flow where
  | next
  | halt
  deriving DecidableEq

/-- The word that an input instruction delivers when the input has ended. -/
def endOfInput : Word :=
  0xFFFFFFFF

namespace Machine

variable {χ : Type}

def assign (m : Machine χ) (r : Register) (value : Word) : Machine χ :=
  { m with registers := m.registers.set r.val value r.isLt }

def advance (m : Machine χ) : Machine χ :=
  { m with pc := m.pc + 1, steps := m.steps + 1 }

def withMemory (m : Machine χ) (change : Memory → Except Fault Unit × Memory) :
    Except Fault Flow × Machine χ :=
  let (answer, memory) := change m.memory
  (answer.map fun _ => .next, { m with memory })

def perform [Channel χ] (m : Machine χ) (op : Operator) (o : Operands) :
    Except Fault Flow × Machine χ :=
  let a := m.registers.get o.a
  let b := m.registers.get o.b
  let c := m.registers.get o.c
  match op with
  | .conditionalMove => (.ok .next, if c = 0 then m else m.assign o.a b)
  | .segmentLoad =>
      match m.memory.read b c with
      | .ok word => (.ok .next, m.assign o.a word)
      | .error fault => (.error fault, m)
  | .segmentStore => m.withMemory (·.write a b c)
  | .add => (.ok .next, m.assign o.a (b + c))
  | .multiply => (.ok .next, m.assign o.a (b * c))
  | .divide =>
      if c = 0 then (.error .divisionByZero, m) else (.ok .next, m.assign o.a (b / c))
  | .nand => (.ok .next, m.assign o.a (~~~(b &&& c)))
  | .mapSegment =>
      let (id, memory) := m.memory.allocate c
      (.ok .next, { m with memory }.assign o.b id)
  | .unmapSegment => m.withMemory (·.release c)
  | .output =>
      if c < 256 then
        match Channel.write m.channel c.toUInt8 with
        | (.ok (), channel) => (.ok .next, { m with channel })
        | (.error reason, channel) => (.error (.io reason), { m with channel })
      else (.error (.outOfRange c), m)
  | .input =>
      match Channel.read m.channel with
      | (.ok byte, channel) =>
          (.ok .next, { m with channel }.assign o.c (byte.elim endOfInput UInt8.toUInt32))
      | (.error reason, channel) => (.error (.io reason), { m with channel })
  | .loadProgram =>
      match m.withMemory (·.loadProgram b) with
      | (.ok flow, m) => (.ok flow, { m with pc := c })
      | faulted => faulted

def execute [Channel χ] (m : Machine χ) (word : Word) : Except Fault Flow × Machine χ :=
  match Instruction.decode word with
  | .standard op operands => m.perform op operands
  | .halt => (.ok .halt, m)
  | .loadImmediate a value => (.ok .next, m.assign a value)
  | .illegal code => (.error (.illegalOpcode code word), m)

def stop [Channel χ] (m : Machine χ) (fault : Fault) : Except Fault Status × Machine χ :=
  let (_, channel) := Channel.flush m.channel
  (.error fault, { m with status := .faulted fault, channel })

/-- Halts the machine, or stops it by a fault if the output cannot be flushed. -/
def halt [Channel χ] (m : Machine χ) : Except Fault Status × Machine χ :=
  match Channel.flush m.channel with
  | (.ok (), channel) => (.ok .halted, { m with status := .halted, channel })
  | (.error reason, channel) => { m with channel }.stop (.io reason)

/-- Carries out one instruction and answers with the status after it or the fault that
stopped the machine. A machine that has stopped already repeats its answer. -/
def step [Channel χ] (m : Machine χ) : Except Fault Status × Machine χ :=
  match m.status with
  | .halted => (.ok .halted, m)
  | .faulted fault => (.error fault, m)
  | .running =>
      match m.memory.read 0 m.pc with
      | .error fault => m.stop fault
      | .ok word =>
          match m.advance.execute word with
          | (.ok .next, m) => (.ok .running, m)
          | (.ok .halt, m) => m.halt
          | (.error fault, m) => m.stop fault

end Machine

end UniversalMachine
