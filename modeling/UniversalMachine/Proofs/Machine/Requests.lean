import Mathlib
import UniversalMachine.Proofs.Machine.StepLimit

/-!
The requests that a step makes of its channel, and the channel that it leaves. A step makes at
most one request to write or to read; only the step that stops the machine flushes the channel. So
what every request keeps is kept by runs, and a quantity to which each request to write and to
read adds a fixed amount grows by the number of them. If the request that a step needs is refused,
then the step stops the machine by the refusal.
-/

namespace UniversalMachine.Machine

variable {χ : Type} [Channel χ]

/-! ### The channel that a step leaves -/

/-- The channel that an instruction leaves. -/
def channelAfter (m : Machine χ) : Instruction → χ
  | .standard .output o =>
      if m.registers.get o.c < 256 then
        (Channel.write m.channel (m.registers.get o.c).toUInt8).2
      else m.channel
  | .standard .input _ => (Channel.read m.channel).2
  | _ => m.channel

theorem channel_perform (m : Machine χ) (op : Operator) (o : Operands) :
    (m.perform op o).2.channel = m.channelAfter (.standard op o) := by
  cases op with
  | output =>
      simp only [perform, channelAfter]
      split
      · generalize Channel.write m.channel _ = answered
        obtain ⟨_ | _, channel⟩ := answered <;> rfl
      · rfl
  | input =>
      simp only [perform, channelAfter]
      generalize Channel.read m.channel = answered
      obtain ⟨_ | _, channel⟩ := answered <;> rfl
  | _ => exact (frame_perform m _ o).channel (by decide) (by decide)

theorem channel_execute (m : Machine χ) (word : Word) :
    (m.execute word).2.channel = m.channelAfter (Instruction.decode word) := by
  rw [execute]
  split
  next op o decoded =>
    rw [decoded]
    exact channel_perform m op o
  all_goals
    next decoded =>
      rw [decoded]
      rfl

/-- The status and the channel that a step of a running machine leaves. -/
inductive Leaves (m : Machine χ) : Status → χ → Prop
  | next {i : Instruction} (next : m.next? = some i) : Leaves m .running (m.channelAfter i)
  | halted {channel : χ} (next : m.next? = some .halt)
      (flushed : Channel.flush m.channel = (.ok (), channel)) : Leaves m .halted channel
  | haltRefused {reason : String} {channel : χ} (next : m.next? = some .halt)
      (refused : Channel.flush m.channel = (.error reason, channel)) :
      Leaves m (.faulted (.io reason)) (Channel.flush channel).2
  | fetchFault {fault : Fault} (next : m.next? = none) :
      Leaves m (.faulted fault) (Channel.flush m.channel).2
  | fault {i : Instruction} {fault : Fault} (next : m.next? = some i) (other : i ≠ .halt) :
      Leaves m (.faulted fault) (Channel.flush (m.channelAfter i)).2

theorem leaves_halt {m : Machine χ} (next : m.next? = some .halt) :
    Leaves m m.advance.halt.2.status m.advance.halt.2.channel := by
  cases flushed : Channel.flush m.channel with
  | mk answer channel =>
      have flushed' : Channel.flush m.advance.channel = (answer, channel) := flushed
      cases answer with
      | ok _ =>
          simp only [halt, flushed']
          exact .halted next flushed
      | error reason =>
          simp only [halt, flushed']
          exact .haltRefused next flushed

theorem leaves {m : Machine χ} (running : m.status = .running) :
    Leaves m m.stepped.status m.stepped.channel := by
  obtain ⟨_, word, -, -, fetched⟩ | ⟨-, refused⟩ := m.memory.read_cases 0 m.pc
  · have next := next?_of_fetched running fetched
    have after : (m.advance.execute word).2.channel = m.channelAfter (Instruction.decode word) :=
      channel_execute m.advance word
    cases executed : m.advance.execute word with
    | mk answer m' =>
        rw [executed] at after
        cases answer with
        | error fault =>
            rw [stepped, step_of_fault running fetched executed, stop, after]
            refine .fault next fun halt => ?_
            rw [execute, halt] at executed
            cases executed
        | ok flow =>
            cases flow with
            | next =>
                have kept := (frame_execute m.advance word).status
                rw [executed] at kept
                rw [stepped, step_of_next running fetched executed, after,
                  show m'.status = .running from kept.trans running]
                exact .next next
            | halt =>
                obtain ⟨decoded, rfl⟩ := execute_eq_halt executed
                rw [decoded] at next
                simp only [stepped, step, running, fetched, executed]
                exact leaves_halt next
  · have next : m.next? = none := by simp only [next?, running, refused]
    simp only [stepped, step, running, refused]
    exact .fetchFault next

theorem next?_of_halted {m : Machine χ} (running : m.status = .running)
    (halted : m.stepped.status = .halted) : m.next? = some .halt := by
  have left := leaves running
  rw [halted] at left
  cases left with
  | halted next => exact next

/-- A machine that has been brought to halt has carried out the instruction that says so. -/
theorem exists_halt {m : Machine χ} (running : m.status = .running) {n : ℕ}
    (halted : (stepped^[n] m).status = .halted) :
    ∃ k < n, (stepped^[k] m).next? = some .halt ∧ stepped^[k + 1] m = stepped^[n] m := by
  obtain ⟨k, lt, going, last⟩ := exists_last_step running (by rw [halted]; nofun)
  rw [← last, Function.iterate_succ_apply'] at halted
  exact ⟨k, lt, next?_of_halted going halted, last⟩

/-! ### Requests of a step -/

/-- The next step is to write a byte. -/
def sends (m : Machine χ) : Bool :=
  match m.next? with
  | some (.standard .output o) => (m.registers.get o.c).toNat ≤ 255
  | _ => false

/-- The next step is to read a byte. -/
def receives (m : Machine χ) : Bool :=
  m.nextOperator? = some .input

omit [Channel χ] in
theorem sends_eq_true_iff {m : Machine χ} :
    m.sends = true ↔
      ∃ o, m.next? = some (.standard .output o) ∧ m.registers.get o.c < 256 := by
  rw [sends]
  split
  next o next =>
    rw [decide_eq_true_iff]
    constructor
    · intro small
      exact ⟨o, next, UInt32.lt_iff_toNat_lt.mpr (Nat.lt_succ_of_le small)⟩
    · rintro ⟨o', next', small⟩
      rw [next] at next'
      cases next'
      exact Nat.le_of_lt_succ (UInt32.lt_iff_toNat_lt.mp small)
  next other =>
    refine ⟨nofun, ?_⟩
    rintro ⟨o, next, -⟩
    exact absurd next (other o)

omit [Channel χ] in
theorem no_transfer_of_next? {m : Machine χ} (idle : m.next? = none ∨ m.next? = some .halt) :
    m.sends = false ∧ m.receives = false := by
  obtain next | next := idle <;>
    simp [sends, receives, nextOperator?, next, Instruction.operator?]

/-- Every request keeps a property of the channel. -/
structure Keeps (P : χ → Prop) : Prop where
  write : ∀ c byte, P c → P (Channel.write c byte).2
  read : ∀ c, P c → P (Channel.read c).2
  flush : ∀ c, P c → P (Channel.flush c).2

namespace Keeps

variable {P : χ → Prop} (keeps : Keeps P) {m : Machine χ} (holds : P m.channel)
include keeps holds

theorem channelAfter (i : Instruction) : P (m.channelAfter i) := by
  unfold Machine.channelAfter
  split
  · split
    · exact keeps.write _ _ holds
    · exact holds
  · exact keeps.read _ holds
  · exact holds

theorem stepped : P m.stepped.channel := by
  by_cases running : m.status = .running
  · have left := leaves running
    generalize m.stepped.channel = channel, m.stepped.status = status at left ⊢
    have flushed := keeps.flush _ holds
    cases left with
    | next => exact keeps.channelAfter holds _
    | fault => exact keeps.flush _ (keeps.channelAfter holds _)
    | fetchFault => exact flushed
    | halted next answered => rwa [answered] at flushed
    | haltRefused next answered =>
        rw [answered] at flushed
        exact keeps.flush _ flushed
  · rwa [stepped_of_stopped running]

theorem iterate (n : ℕ) : P (Machine.stepped^[n] m).channel := by
  induction n with
  | zero => exact holds
  | succ n ih =>
      rw [Function.iterate_succ_apply']
      exact keeps.stepped ih

end Keeps

theorem keeps_true : Keeps fun _ : χ => True :=
  ⟨fun _ _ => id, fun _ => id, fun _ => id⟩

theorem count_succ_toNat (p : ℕ → Bool) (n : ℕ) :
    (n + 1).count (fun k => p k) = n.count (fun k => p k) + (p n).toNat := by
  rw [Nat.count_succ]
  cases p n <;> rfl

/-- Each request to write, and each request to read, adds a fixed amount to a quantity of the
channels that have a property. -/
structure Counts (P : χ → Prop) (μ : χ → ℕ) (perWrite perRead : ℕ) : Prop where
  write : ∀ c byte, P c → μ (Channel.write c byte).2 = μ c + perWrite
  read : ∀ c, P c → μ (Channel.read c).2 = μ c + perRead

namespace Counts

variable {P : χ → Prop} {μ : χ → ℕ} {perWrite perRead : ℕ} (counts : Counts P μ perWrite perRead)
  {m : Machine χ} (holds : P m.channel)
include counts holds

theorem channelAfter {i : Instruction} (next : m.next? = some i) :
    μ (m.channelAfter i) =
      μ m.channel + perWrite * m.sends.toNat + perRead * m.receives.toNat := by
  have operator : m.nextOperator? = i.operator? := by rw [nextOperator?, next, Option.bind_some]
  simp only [sends, receives, next, operator]
  cases i with
  | halt | loadImmediate | illegal => rfl
  | standard op o =>
      cases op with
      | output =>
          simp only [Machine.channelAfter, UInt32.lt_iff_toNat_lt]
          split
          next small =>
            rw [counts.write _ _ holds, decide_eq_true (Nat.le_of_lt_succ small)]
            exact congrArg (_ + ·) (Nat.mul_one perWrite).symm
          next large =>
            rw [decide_eq_false fun small => large (Nat.lt_succ_of_le small)]
            rfl
      | input =>
          rw [Machine.channelAfter, counts.read _ holds]
          exact congrArg (_ + ·) (Nat.mul_one perRead).symm
      | _ => rfl

/-- If a flush adds nothing, then the requests of a step are all that counts. -/
theorem stepped (keeps : Keeps P) (flush : ∀ c, P c → μ (Channel.flush c).2 = μ c) :
    μ m.stepped.channel =
      μ m.channel + perWrite * m.sends.toNat + perRead * m.receives.toNat := by
  have noTransfer (idle : m.next? = none ∨ m.next? = some .halt) :
      μ m.channel + perWrite * m.sends.toNat + perRead * m.receives.toNat = μ m.channel := by
    obtain ⟨noSend, noReceive⟩ := no_transfer_of_next? idle
    rw [noSend, noReceive]
    rfl
  by_cases running : m.status = .running
  · have left := leaves running
    generalize m.stepped.channel = channel, m.stepped.status = status at left ⊢
    have flushed := flush _ holds
    have kept := keeps.flush _ holds
    cases left with
    | next next => exact counts.channelAfter holds next
    | fault next =>
        rw [flush _ (keeps.channelAfter holds _), counts.channelAfter holds next]
    | halted next answered =>
        rw [noTransfer (.inr next)]
        rwa [answered] at flushed
    | haltRefused next answered =>
        rw [answered] at flushed kept
        rw [flush _ kept, flushed, noTransfer (.inr next)]
    | fetchFault next => rw [flushed, noTransfer (.inl next)]
  · rw [stepped_of_stopped running, noTransfer (.inl (next?_of_stopped running))]

theorem iterate (keeps : Keeps P) (flush : ∀ c, P c → μ (Channel.flush c).2 = μ c) (n : ℕ) :
    μ (Machine.stepped^[n] m).channel =
      μ m.channel + perWrite * n.count (fun k => (Machine.stepped^[k] m).sends) +
        perRead * n.count (fun k => (Machine.stepped^[k] m).receives) := by
  induction n with
  | zero => simp only [Function.iterate_zero_apply, Nat.count_zero, Nat.mul_zero, Nat.add_zero]
  | succ n ih =>
      rw [Function.iterate_succ_apply', counts.stepped (keeps.iterate holds n) keeps flush, ih,
        count_succ_toNat fun k => (Machine.stepped^[k] m).sends,
        count_succ_toNat fun k => (Machine.stepped^[k] m).receives]
      ring

end Counts

/-! ### Refused requests -/

/-- The channel refuses the request that the next step needs. -/
inductive Refuses (m : Machine χ) (reason : String) : Prop
  | write {o : Operands} (next : m.next? = some (.standard .output o))
      (small : m.registers.get o.c < 256)
      (refused : (Channel.write m.channel (m.registers.get o.c).toUInt8).1 = .error reason) :
      Refuses m reason
  | read {o : Operands} (next : m.next? = some (.standard .input o))
      (refused : (Channel.read m.channel).1 = .error reason) : Refuses m reason
  | flush (next : m.next? = some .halt) (refused : (Channel.flush m.channel).1 = .error reason) :
      Refuses m reason

theorem Refuses.running {m : Machine χ} {reason : String} (refuses : m.Refuses reason) :
    m.status = .running := by
  cases refuses with
  | write next | read next | flush next => exact (fetched_of_next? next).1

theorem Refuses.step {m : Machine χ} {reason : String} (refuses : m.Refuses reason) :
    m.step.1 = .error (.io reason) := by
  have running := refuses.running
  cases refuses with
  | @write o next small refused =>
      obtain ⟨-, word, fetched, decoded⟩ := fetched_of_next? next
      have small' : m.advance.registers.get o.c < 256 := small
      obtain ⟨channel, answered⟩ : ∃ channel,
          Channel.write m.advance.channel (m.advance.registers.get o.c).toUInt8 =
            (.error reason, channel) := ⟨_, Prod.ext refused rfl⟩
      have executed : m.advance.execute word =
          (.error (.io reason), { m.advance with channel }) := by
        simp only [execute, decoded, perform, if_pos small', answered]
      rw [step_of_fault running fetched executed]
      rfl
  | read next refused =>
      obtain ⟨-, word, fetched, decoded⟩ := fetched_of_next? next
      obtain ⟨channel, answered⟩ : ∃ channel,
          Channel.read m.advance.channel = (.error reason, channel) := ⟨_, Prod.ext refused rfl⟩
      have executed : m.advance.execute word =
          (.error (.io reason), { m.advance with channel }) := by
        simp only [execute, decoded, perform, answered]
      rw [step_of_fault running fetched executed]
      rfl
  | flush next refused =>
      obtain ⟨-, word, fetched, decoded⟩ := fetched_of_next? next
      obtain ⟨channel, answered⟩ : ∃ channel,
          Channel.flush m.advance.channel = (.error reason, channel) := ⟨_, Prod.ext refused rfl⟩
      have executed : m.advance.execute word = (.ok .halt, m.advance) := by
        simp only [execute, decoded]
      simp only [Machine.step, running, fetched, executed, halt, answered]
      rfl

theorem Refuses.stepped {m : Machine χ} {reason : String} (refuses : m.Refuses reason) :
    m.stepped.status = .faulted (.io reason) := by
  have answered := refuses.step
  rw [step_eq] at answered
  generalize m.stepped.status = status at answered ⊢
  cases status with
  | running | halted => cases answered
  | faulted fault => rw [Except.error.inj answered]

end UniversalMachine.Machine
