import Mathlib
import UniversalMachine.Proofs.Machine.Delivery

/-!
Machines on a device that takes no byte. Such a device is noticed at the first step that waits for
the delivery of a byte: an output if every byte is delivered at once, and otherwise an input or a
halt that comes after an output. That step stops the machine; up to it, the machine does what it
does on a device that takes every byte. Nothing is said here about a console on which as many
bytes are pending as it can hold, where an output waits as well.
-/

namespace UniversalMachine

/-! ### A console that delivers nothing -/

/-- The device takes no byte, so that all that was sent is pending. -/
structure Console.Blocked (c : Console) (reason : String) (eachByte : Bool) : Prop where
  device : c.device = .refusing reason
  flushEachOutput : c.flushEachOutput = eachByte
  delivered : c.delivered = #[]

namespace Machine

open Console (unbuffered)

variable {m : Machine Console} {reason : String} {eachByte : Bool}

theorem keeps_blocked (reason : String) (eachByte : Bool) :
    Keeps fun c : Console => c.Blocked reason eachByte :=
  keeps_of_console
    (fun c blocked => by rwa [Console.deliver_snd_of_refusing blocked.device])
    (fun _ _ blocked => ⟨blocked.device, blocked.flushEachOutput, blocked.delivered⟩)
    fun _ _ blocked => ⟨blocked.device, blocked.flushEachOutput, blocked.delivered⟩

/-- The next step waits for the delivery of a byte: of the one that it writes, or of one that is
pending. -/
def Waits (m : Machine Console) : Prop :=
  m.sends = true ∧ m.channel.flushEachOutput = true ∨
    (m.receives = true ∨ m.next? = some .halt) ∧ m.channel.pending ≠ #[]

section
variable (room : m.channel.pending.size < Console.capacity)
include room

theorem refuses_of_waits (blocked : m.channel.Blocked reason eachByte) (waits : m.Waits) :
    m.Refuses reason := by
  obtain ⟨sends, flushEach⟩ | ⟨receives | halt, nonempty⟩ := waits
  · obtain ⟨o, next, small⟩ := sends_eq_true_iff.mp sends
    have refused : (m.channel.hold (m.registers.get o.c).toUInt8).deliver = (.error reason, _) :=
      Console.deliver_of_refusing blocked.device Array.push_ne_empty
    refine .write next small ?_
    change (m.channel.write _).1 = _
    rw [Console.write_of_room (if_pos room), if_pos flushEach, refused]
  · obtain ⟨o, next⟩ := nextOperator?_eq_some_iff.mp (of_decide_eq_true receives)
    refine .read next ?_
    change m.channel.read.1 = _
    rw [Console.read_of_refused (Console.deliver_of_refusing blocked.device nonempty)]
  · refine .flush halt ?_
    change m.channel.deliver.1 = _
    rw [Console.deliver_of_refusing blocked.device nonempty]

theorem carries_of_not_waits (idle : ¬ m.Waits) : Carries unbuffered m := by
  obtain ⟨noSend, noDelivery⟩ := not_or.mp idle
  refine carries_unbuffered (fun sends byte => ?_) fun delivers => ?_
  · have later : ¬ m.channel.flushEachOutput = true := fun flushEach => noSend ⟨sends, flushEach⟩
    rw [Console.write_of_room (if_pos room), if_neg later]
  · have empty : m.channel.pending = #[] := by
      by_contra nonempty
      exact noDelivery ⟨delivers, nonempty⟩
    rw [Console.deliver_of_empty empty]

end

/-! ### Steps that wait on a device that takes every byte -/

/-- Step `k` of a machine whose device takes every byte waits for the delivery of one. -/
def AwaitsDelivery (m : Machine Console) (k : ℕ) : Prop :=
  (stepped^[k] m).sends = true ∧ m.channel.flushEachOutput = true ∨
    ((stepped^[k] m).receives = true ∨ (stepped^[k] m).next? = some .halt) ∧
      ∃ j < k, (stepped^[j] m).sends = true

theorem running_of_waits {m : Machine Console}
    (waits : m.receives = true ∨ m.next? = some .halt) : m.status = .running := by
  obtain receives | halt := waits
  · obtain ⟨o, next⟩ := nextOperator?_eq_some_iff.mp (of_decide_eq_true receives)
    exact (fetched_of_next? next).1
  · exact (fetched_of_next? halt).1

section
variable (accepting : m.channel.device = .accepting) (fresh : m.channel.sent = #[]) {n : ℕ}
include accepting fresh

theorem sent_of_awaits (awaits : ∃ k < n, m.AwaitsDelivery k) :
    (stepped^[n] m).channel.sent ≠ #[] := by
  rw [sent_iterate_ne_empty_iff accepting fresh]
  obtain ⟨k, lt, ⟨sends, -⟩ | ⟨-, j, before, sends⟩⟩ := awaits
  · exact ⟨k, lt, sends⟩
  · exact ⟨j, Nat.lt_trans before lt, sends⟩

/-- To halt after an output is to wait for its delivery. -/
theorem awaits_of_halted (running : m.status = .running)
    (halted : (stepped^[n] m).status = .halted) (nonempty : (stepped^[n] m).channel.sent ≠ #[]) :
    ∃ k < n, m.AwaitsDelivery k := by
  obtain ⟨k, lt, halt, last⟩ := exists_halt running halted
  obtain ⟨j, -, sends⟩ := (sent_iterate_ne_empty_iff accepting fresh).mp nonempty
  obtain ⟨o, next, -⟩ := sends_eq_true_iff.mp sends
  refine ⟨k, lt, .inr ⟨.inr halt, j, ?_, sends⟩⟩
  by_contra late
  obtain rfl | later := Nat.eq_or_lt_of_le (Nat.not_lt.mp late)
  · rw [halt] at next
    cases next
  · have going := (fetched_of_next? next).1
    rw [← last] at halted
    rw [iterate_eq_of_stopped later (by rw [halted]; nofun), halted] at going
    cases going

end

/-! ### Both devices -/

/-- The machine on another device. -/
def withDevice (m : Machine Console) (device : Device) : Machine Console :=
  m.mapChannel fun c => { c with device }

section
variable (fresh : m.channel.sent = #[]) (reason : String)
include fresh

theorem blocked_iterate (n : ℕ) :
    (stepped^[n] (m.withDevice (.refusing reason))).channel.Blocked reason
      m.channel.flushEachOutput :=
  (keeps_blocked reason m.channel.flushEachOutput).iterate (m := m.withDevice _)
    ⟨rfl, rfl, (Array.append_eq_empty_iff.mp fresh).1⟩ n

theorem pending_iterate {n : ℕ}
    (same : (stepped^[n] (m.withDevice (.refusing reason))).mapChannel unbuffered =
      (stepped^[n] m).mapChannel unbuffered) :
    (stepped^[n] (m.withDevice (.refusing reason))).channel.pending =
      (stepped^[n] m).channel.sent := by
  have sent := congrArg (·.channel.delivered) same
  have undelivered := (blocked_iterate fresh reason n).delivered
  have held (c : Console) (none : c.delivered = #[]) : c.sent = c.pending := by
    rw [Console.sent, none, Array.empty_append]
  rwa [← held _ undelivered]

variable (accepting : m.channel.device = .accepting)
include accepting

/-- As long as neither has noticed its device, both machines wait for the same deliveries. -/
theorem waits_iterate_iff {n : ℕ}
    (same : (stepped^[n] (m.withDevice (.refusing reason))).mapChannel unbuffered =
      (stepped^[n] m).mapChannel unbuffered) :
    (stepped^[n] (m.withDevice (.refusing reason))).Waits ↔ m.AwaitsDelivery n := by
  have sends := congrArg Machine.sends same
  have receives := congrArg Machine.receives same
  have next := congrArg next? same
  rw [sends_mapChannel, sends_mapChannel] at sends
  rw [receives_mapChannel, receives_mapChannel] at receives
  rw [next?_mapChannel, next?_mapChannel] at next
  rw [Waits, AwaitsDelivery, ← sent_iterate_ne_empty_iff accepting fresh,
    ← pending_iterate fresh reason same, (blocked_iterate fresh reason n).flushEachOutput,
    ← sends, ← receives, ← next]

/-- A step that waits for a delivery is stopped, and any other leads to the same on both devices. -/
theorem iterate_succ_refusing {n : ℕ}
    (few : (stepped^[n] m).channel.sent.size < Console.capacity)
    (same : (stepped^[n] (m.withDevice (.refusing reason))).mapChannel unbuffered =
      (stepped^[n] m).mapChannel unbuffered) :
    (m.AwaitsDelivery n →
      (stepped^[n + 1] (m.withDevice (.refusing reason))).status = .faulted (.io reason)) ∧
    (¬ m.AwaitsDelivery n →
      (stepped^[n + 1] (m.withDevice (.refusing reason))).mapChannel unbuffered =
        (stepped^[n + 1] m).mapChannel unbuffered) := by
  have room : (stepped^[n] (m.withDevice (.refusing reason))).channel.pending.size <
      Console.capacity := by rwa [pending_iterate fresh reason same]
  have waits := waits_iterate_iff fresh reason accepting same
  rw [Function.iterate_succ_apply', Function.iterate_succ_apply', ← waits]
  constructor
  · intro awaits
    exact (refuses_of_waits room (blocked_iterate fresh reason n) awaits).stepped
  · intro idle
    rw [← stepped_mapChannel (carries_of_not_waits room idle), same,
      stepped_mapChannel (carries_of_accepting (keeps_accepting.iterate accepting n))]

/-- On a device that takes no byte a machine does what it does on one that takes every byte, up to
the first step that waits for the delivery of a byte. That step stops it. -/
theorem iterate_refusing {n : ℕ} (few : (stepped^[n] m).channel.sent.size < Console.capacity) :
    ((∃ k < n, m.AwaitsDelivery k) →
      (stepped^[n] (m.withDevice (.refusing reason))).status = .faulted (.io reason)) ∧
    ((∀ k < n, ¬ m.AwaitsDelivery k) →
      (stepped^[n] (m.withDevice (.refusing reason))).mapChannel unbuffered =
        (stepped^[n] m).mapChannel unbuffered) := by
  induction n with
  | zero =>
      constructor
      · rintro ⟨k, lt, -⟩
        exact absurd lt (Nat.not_lt_zero k)
      · intro
        rfl
  | succ n ih =>
      have few' := Nat.lt_of_le_of_lt (size_sent_iterate_le accepting (Nat.le_succ n)) few
      obtain ⟨faulted, same⟩ := ih few'
      by_cases noticed : ∃ k < n, m.AwaitsDelivery k
      · have faulted := faulted noticed
        rw [iterate_eq_of_stopped (Nat.le_succ n) (by rw [faulted]; nofun)]
        refine ⟨fun _ => faulted, fun unnoticed => ?_⟩
        obtain ⟨k, lt, awaits⟩ := noticed
        exact absurd awaits (unnoticed k (Nat.lt_succ_of_lt lt))
      · have same := same fun k lt awaits => noticed ⟨k, lt, awaits⟩
        obtain ⟨stops, goes⟩ := iterate_succ_refusing fresh reason accepting few' same
        refine ⟨?_, fun unnoticed => goes (unnoticed n (Nat.lt_succ_self n))⟩
        rintro ⟨k, lt, awaits⟩
        obtain earlier | rfl := Nat.lt_succ_iff_lt_or_eq.mp lt
        · exact absurd ⟨k, earlier, awaits⟩ noticed
        · exact stops awaits

theorem runFor?_refusing (running : m.status = .running) {fuel : ℕ} {limit : Option ℕ}
    {result : Except Fault Status × Machine Console} (ran : m.runFor? fuel limit = some result)
    (few : result.2.channel.sent.size < Console.capacity) :
    ((∃ k < limit.getD fuel, m.AwaitsDelivery k) → result.2.channel.sent ≠ #[] ∧
      ∃ m', (m.withDevice (.refusing reason)).runFor? fuel limit =
        some (.error (.io reason), m')) ∧
    ((∀ k < limit.getD fuel, ¬ m.AwaitsDelivery k) →
      ∃ m', (m.withDevice (.refusing reason)).runFor? fuel limit = some (result.1, m') ∧
        m'.mapChannel unbuffered = result.2.mapChannel unbuffered) := by
  have running' : (m.withDevice (.refusing reason)).status = .running := running
  obtain ⟨ends, rfl⟩ := (runFor?_eq_some_iff running).mp ran
  obtain ⟨stops, goes⟩ := iterate_refusing fresh reason accepting few
  constructor
  · intro noticed
    have ran' := runFor?_of_status running' (stops noticed) fun _ => nofun
    exact ⟨sent_of_awaits accepting fresh noticed, _, ran'⟩
  · intro unnoticed
    have same := goes unnoticed
    have status := congrArg Machine.status same
    rw [status_mapChannel, status_mapChannel] at status
    exact ⟨_, runFor?_of_status running' status ends, same⟩

end

end Machine

end UniversalMachine
