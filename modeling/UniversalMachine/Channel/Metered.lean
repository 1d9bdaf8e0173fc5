import UniversalMachine.Channel

/-!
A channel whose requests are counted and can be made to fail.

Requests of each kind are numbered from zero. A failing request is counted, does not
reach the channel within, and is refused with its kind and number.
-/

namespace UniversalMachine

/-- How many requests of each kind a channel has had, failed ones included. -/
structure Requests where
  writes : Nat := 0
  reads : Nat := 0
  flushes : Nat := 0
  deriving DecidableEq

/-- The number of the request of each kind that is to fail, if any. -/
structure FailurePlan where
  write : Option Nat := none
  read : Option Nat := none
  flush : Option Nat := none
  deriving DecidableEq

structure Metered (χ : Type) where
  channel : χ
  plan : FailurePlan := {}
  requests : Requests := {}

namespace Metered

variable {χ : Type} [Channel χ]

def refusal (kind : String) (number : Nat) : String :=
  s!"{kind} {number} refused"

def write (m : Metered χ) (byte : UInt8) : Except String Unit × Metered χ :=
  let number := m.requests.writes
  let m := { m with requests.writes := number + 1 }
  if m.plan.write = some number then (.error (refusal "write" number), m)
  else
    let (answer, channel) := Channel.write m.channel byte
    (answer, { m with channel })

def read (m : Metered χ) : Except String (Option UInt8) × Metered χ :=
  let number := m.requests.reads
  let m := { m with requests.reads := number + 1 }
  if m.plan.read = some number then (.error (refusal "read" number), m)
  else
    let (answer, channel) := Channel.read m.channel
    (answer, { m with channel })

def flush (m : Metered χ) : Except String Unit × Metered χ :=
  let number := m.requests.flushes
  let m := { m with requests.flushes := number + 1 }
  if m.plan.flush = some number then (.error (refusal "flush" number), m)
  else
    let (answer, channel) := Channel.flush m.channel
    (answer, { m with channel })

instance : Channel (Metered χ) where
  write := write
  read := read
  flush := flush

/-! ### What a request does

A request is counted, and the plan stays as it is. A request that the plan does not refuse is
answered by the channel within. -/

section
variable (m : Metered χ) (byte : UInt8)

theorem requests_write : (Channel.write m byte).2.requests =
    { m.requests with writes := m.requests.writes + 1 } := by
  simp only [Channel.write, write]
  split <;> rfl

theorem requests_read :
    (Channel.read m).2.requests = { m.requests with reads := m.requests.reads + 1 } := by
  simp only [Channel.read, read]
  split <;> rfl

theorem requests_flush :
    (Channel.flush m).2.requests = { m.requests with flushes := m.requests.flushes + 1 } := by
  simp only [Channel.flush, flush]
  split <;> rfl

theorem requests_of_flush {m' : Metered χ} {answer : Except String Unit}
    (flushed : Channel.flush m = (answer, m')) :
    m'.requests = { m.requests with flushes := m.requests.flushes + 1 } := by
  rw [← requests_flush, flushed]

theorem plan_write : (Channel.write m byte).2.plan = m.plan := by
  simp only [Channel.write, write]
  split <;> rfl

theorem plan_read : (Channel.read m).2.plan = m.plan := by
  simp only [Channel.read, read]
  split <;> rfl

theorem plan_flush : (Channel.flush m).2.plan = m.plan := by
  simp only [Channel.flush, flush]
  split <;> rfl

variable {m}

theorem write_of_refused (refused : m.plan.write = some m.requests.writes) :
    Channel.write m byte = (.error (refusal "write" m.requests.writes),
      { m with requests.writes := m.requests.writes + 1 }) := by
  simp only [Channel.write, write, if_pos refused]

theorem read_of_refused (refused : m.plan.read = some m.requests.reads) :
    Channel.read m = (.error (refusal "read" m.requests.reads),
      { m with requests.reads := m.requests.reads + 1 }) := by
  simp only [Channel.read, read, if_pos refused]

theorem flush_of_refused (refused : m.plan.flush = some m.requests.flushes) :
    Channel.flush m = (.error (refusal "flush" m.requests.flushes),
      { m with requests.flushes := m.requests.flushes + 1 }) := by
  simp only [Channel.flush, flush, if_pos refused]

theorem write_within (passed : m.plan.write ≠ some m.requests.writes) :
    Channel.write m.channel byte = Prod.map id channel (Channel.write m byte) := by
  simp only [Channel.write, write, if_neg passed]
  rfl

theorem read_within (passed : m.plan.read ≠ some m.requests.reads) :
    Channel.read m.channel = Prod.map id channel (Channel.read m) := by
  simp only [Channel.read, read, if_neg passed]
  rfl

theorem flush_within (passed : m.plan.flush ≠ some m.requests.flushes) :
    Channel.flush m.channel = Prod.map id channel (Channel.flush m) := by
  simp only [Channel.flush, flush, if_neg passed]
  rfl

end

end Metered

end UniversalMachine
