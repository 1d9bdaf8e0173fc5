import Mathlib
import UniversalMachine.Proofs.Machine.FaultAtomicity
import UniversalMachine.Proofs.Machine.RequestLedger

/-!
A request that fails is contained. The plan of a metered buffer names requests that are refused.
Up to the first one that matters, the machine does what it does on a buffer that refuses nothing;
the step that makes that request then stops the machine by the refusal and has no other effect.
A refusal matters if it is of a byte to write, of a byte to read, or of the flush of a halt. That
a flush is refused while a fault is being recorded makes no difference.
-/

namespace UniversalMachine

/-- No request that has been made is one that the plan refuses. -/
structure FailurePlan.Spares (plan : FailurePlan) (made : Requests) : Prop where
  write : ∀ number, plan.write = some number → made.writes ≤ number
  read : ∀ number, plan.read = some number → made.reads ≤ number
  flush : ∀ number, plan.flush = some number → made.flushes ≤ number

namespace Machine

/-- The refusal by which the next step will stop the machine, if the plan has one for it. -/
def refusal? {χ : Type} (m : Machine (Metered χ)) : Option String :=
  let plan := m.channel.plan
  let made := m.channel.requests
  match m.next? with
  | some (.standard .output o) =>
      if (m.registers.get o.c).toNat ≤ 255 ∧ plan.write = some made.writes then
        some (Metered.refusal "write" made.writes)
      else none
  | some (.standard .input _) =>
      if plan.read = some made.reads then some (Metered.refusal "read" made.reads) else none
  | some .halt =>
      if plan.flush = some made.flushes then some (Metered.refusal "flush" made.flushes) else none
  | _ => none

section
variable {χ : Type} {m : Machine (Metered χ)}

theorem refusal?_of_output {o : Operands} (next : m.next? = some (.standard .output o)) :
    m.refusal? =
      if (m.registers.get o.c).toNat ≤ 255 ∧
          m.channel.plan.write = some m.channel.requests.writes then
        some (Metered.refusal "write" m.channel.requests.writes)
      else none := by
  simp only [refusal?, next]

theorem refusal?_of_input {o : Operands} (next : m.next? = some (.standard .input o)) :
    m.refusal? =
      if m.channel.plan.read = some m.channel.requests.reads then
        some (Metered.refusal "read" m.channel.requests.reads)
      else none := by
  simp only [refusal?, next]

theorem refusal?_of_halt (next : m.next? = some .halt) :
    m.refusal? =
      if m.channel.plan.flush = some m.channel.requests.flushes then
        some (Metered.refusal "flush" m.channel.requests.flushes)
      else none := by
  simp only [refusal?, next]

/-- A refusal is of one of three requests. -/
theorem refusal?_eq_some {reason : String} (refused : m.refusal? = some reason) :
    (∃ o, m.next? = some (.standard .output o) ∧ (m.registers.get o.c).toNat ≤ 255 ∧
        m.channel.plan.write = some m.channel.requests.writes ∧
        reason = Metered.refusal "write" m.channel.requests.writes) ∨
      (∃ o, m.next? = some (.standard .input o) ∧
        m.channel.plan.read = some m.channel.requests.reads ∧
        reason = Metered.refusal "read" m.channel.requests.reads) ∨
      m.next? = some .halt ∧ m.channel.plan.flush = some m.channel.requests.flushes ∧
        reason = Metered.refusal "flush" m.channel.requests.flushes := by
  rw [refusal?] at refused
  split at refused
  next o next =>
    obtain ⟨⟨small, planned⟩, same⟩ := Option.ite_none_right_eq_some.mp refused
    exact .inl ⟨o, next, small, planned, (Option.some.inj same).symm⟩
  next o next =>
    obtain ⟨planned, same⟩ := Option.ite_none_right_eq_some.mp refused
    exact .inr (.inl ⟨o, next, planned, (Option.some.inj same).symm⟩)
  next next =>
    obtain ⟨planned, same⟩ := Option.ite_none_right_eq_some.mp refused
    exact .inr (.inr ⟨next, planned, (Option.some.inj same).symm⟩)
  next => cases refused

/-! ### The step that is refused -/

theorem refuses_of_refusal? [Channel χ] {reason : String} (refused : m.refusal? = some reason) :
    m.Refuses reason := by
  obtain ⟨o, next, small, planned, rfl⟩ | ⟨o, next, planned, rfl⟩ | ⟨next, planned, rfl⟩ :=
    refusal?_eq_some refused
  · refine .write next (UInt32.lt_iff_toNat_lt.mpr (Nat.lt_succ_of_le small)) ?_
    rw [Metered.write_of_refused _ planned]
  · refine .read next ?_
    rw [Metered.read_of_refused planned]
  · refine .flush next ?_
    rw [Metered.flush_of_refused planned]

theorem step_of_refusal? [Channel χ] {reason : String} (refused : m.refusal? = some reason) :
    m.step.1 = .error (.io reason) :=
  (refuses_of_refusal? refused).step

theorem transition_of_refusal? [Channel χ] {reason : String} (refused : m.refusal? = some reason) :
    Transition m (.error (.io reason)) m.stepped :=
  transition_of_step (refuses_of_refusal? refused).running
    (Prod.ext (step_of_refusal? refused) rfl)

end

/-! ### Buffers -/

theorem flush_buffer (c : Metered Buffer) : (Channel.flush c).2.channel = c.channel := by
  by_cases planned : c.plan.flush = some c.requests.flushes
  · rw [Metered.flush_of_refused planned]
  · exact (congrArg Prod.snd (Metered.flush_within planned)).symm

/-- What the plan refuses does not reach the buffer, and the buffer refuses nothing. -/
theorem Idle.buffer_within_eq {c c' : Metered Buffer} (idle : Idle c c') :
    c'.channel = c.channel := by
  cases idle with
  | @write _ byte _ refused =>
      by_cases planned : c.plan.write = some c.requests.writes
      · rw [Metered.write_of_refused byte planned] at refused
        exact congrArg (·.2.channel) refused.symm
      · have within := Metered.write_within byte planned
        rw [refused] at within
        cases within
  | read refused =>
      by_cases planned : c.plan.read = some c.requests.reads
      · rw [Metered.read_of_refused planned] at refused
        exact congrArg (·.2.channel) refused.symm
      · have within := Metered.read_within planned
        rw [refused] at within
        have idle : Idle c.channel c'.channel := .read within
        exact idle.buffer_eq
  | flush => exact flush_buffer c

theorem Transition.buffer_within_eq {m m' : Machine (Metered Buffer)} {fault : Fault}
    (transition : Transition m (.error fault) m') : m'.channel.channel = m.channel.channel := by
  cases transition with
  | fetchFault => exact flush_buffer m.channel
  | fault _ _ idle =>
      induction idle with
      | refl => rfl
      | tail _ last same => exact last.buffer_within_eq.trans same

/-- Unless the next request is refused, the meter makes no difference. -/
theorem carries_of_refusal?_eq_none {m : Machine (Metered Buffer)} (spared : m.refusal? = none) :
    Carries Metered.channel m where
  write o next small := by
    refine Metered.write_within _ fun planned => ?_
    have small' := Nat.le_of_lt_succ (UInt32.lt_iff_toNat_lt.mp small)
    rw [refusal?_of_output next, if_pos ⟨small', planned⟩] at spared
    cases spared
  read input := by
    obtain ⟨o, next⟩ := nextOperator?_eq_some_iff.mp input
    refine Metered.read_within fun planned => ?_
    rw [refusal?_of_input next, if_pos planned] at spared
    cases spared
  halt next := by
    refine congrArg Prod.fst (Metered.flush_within fun planned => ?_)
    rw [refusal?_of_halt next, if_pos planned] at spared
    cases spared
  flush c _ := (flush_buffer c).symm

/-- A request that is refused has been made when the step is over. -/
theorem not_spares_of_refusal? {χ : Type} [Channel χ] {m : Machine (Metered χ)} {reason : String}
    (refused : m.refusal? = some reason) :
    ¬ m.channel.plan.Spares m.stepped.channel.requests := by
  intro spares
  obtain ⟨o, next, small, planned, -⟩ | ⟨o, next, planned, -⟩ | ⟨-, planned, -⟩ :=
    refusal?_eq_some refused
  · have sends : m.sends = true := by simp only [Machine.sends, next, small, decide_true]
    have unmade := spares.write _ planned
    rw [requests_stepped, sends, Bool.toNat_true] at unmade
    exact Nat.not_succ_le_self _ unmade
  · have receives : m.receives = true :=
      decide_eq_true (nextOperator?_eq_some_iff.mpr ⟨o, next⟩)
    have unmade := spares.read _ planned
    rw [requests_stepped, receives, Bool.toNat_true] at unmade
    exact Nat.not_succ_le_self _ unmade
  · have stopped := (transition_of_refusal? refused).stoppedBy
    have last : m.stepped.status ≠ .running := by simp [stopped.status]
    have unmade := spares.flush _ planned
    obtain ⟨_, -, -, made⟩ | ⟨-, made⟩ :=
      flushes_stepped_of_last (refuses_of_refusal? refused).running last <;> omega

/-- Let a machine run on a buffer some of whose requests are refused, and another one on the same
buffer without refusals. They agree as long as no byte to write or to read has been refused and no
flush of a halt. The step that is refused such a request records the refusal, and it leaves
registers, memory and buffer as they were. If a step faults without refusals, it records the same
fault when the flush that follows is refused. If no request that the plan names is ever made, the
machines agree for ever. -/
theorem refusal_contained (program : Array Word) (input : List UInt8) (plan : FailurePlan) :
    let m (n : ℕ) : Machine (Metered Buffer) :=
      stepped^[n] (start program { channel := { input }, plan })
    let m₀ (n : ℕ) : Machine Buffer := stepped^[n] (start program { input })
    (∀ n, (∀ k < n, (m k).refusal? = none) → (m n).mapChannel Metered.channel = m₀ n) ∧
    (∀ n reason, (m n).refusal? = some reason →
      (m n).step.1 = .error (.io reason) ∧ StoppedBy (.io reason) (m n) (m (n + 1)) ∧
        (m (n + 1)).channel.channel = (m n).channel.channel) ∧
    (∀ n fault, (∀ k ≤ n, (m k).refusal? = none) → (m₀ n).status = .running →
      (m₀ n).step.1 = .error fault →
        (m n).step.1 = .error fault ∧ (m (n + 1)).status = .faulted fault ∧
          (m (n + 1)).mapChannel Metered.channel = m₀ (n + 1)) ∧
    ((∀ n, plan.Spares (m n).channel.requests) →
      ∀ n, (m n).mapChannel Metered.channel = m₀ n) := by
  intro m m₀
  have agree {n : ℕ} (spared : ∀ k < n, (m k).refusal? = none) :
      (m n).mapChannel Metered.channel = m₀ n :=
    (iterate_mapChannel fun k lt => carries_of_refusal?_eq_none (spared k lt)).symm
  have succ (n : ℕ) : m (n + 1) = (m n).stepped := Function.iterate_succ_apply' stepped n _
  refine ⟨fun n => agree, fun n reason refused => ?_, fun n fault spared running faults => ?_,
    fun spares n => agree fun k _ => ?_⟩
  · have transition := transition_of_refusal? refused
    rw [succ]
    exact ⟨step_of_refusal? refused, transition.stoppedBy, transition.buffer_within_eq⟩
  · have before := agree fun k lt => spared k (Nat.le_of_lt lt)
    have same := step_mapChannel (carries_of_refusal?_eq_none (spared n le_rfl))
    rw [before] at same
    have answer : (m n).step.1 = .error fault := by rw [← faults, same, Prod.map_fst, id_eq]
    have running' : (m n).status = .running := by rwa [← before] at running
    have stopped := (transition_of_step running' (Prod.ext answer rfl)).stoppedBy
    refine ⟨answer, ?_, agree fun k lt => spared k (Nat.le_of_lt_succ lt)⟩
    rw [succ]
    exact stopped.status
  · refine Option.eq_none_iff_forall_ne_some.mpr fun reason refused => ?_
    have planned : (m k).channel.plan = plan := plan_iterate _ k
    have made := not_spares_of_refusal? refused
    rw [planned, ← succ] at made
    exact made (spares (k + 1))

/-- The second byte is refused, and so is the flush that follows. The refusal of a flush does not
hide that a program divided by zero. A plan for a second flush has no effect on a program that
halts. -/
theorem refusals_contained_in_three_runs :
    let left (program : Array Word) (plan : FailurePlan) (n : ℕ) : Machine (Metered Buffer) :=
      stepped^[n] (start program { channel := { input := [7] }, plan })
    let left₀ (program : Array Word) (n : ℕ) : Machine Buffer :=
      stepped^[n] (start program { input := [7] })
    let sends := left #[0xD2000041, 0xA0000001, 0xA0000001] { write := some 1, flush := some 0 }
    let divides := left #[0x50000000] { flush := some 0 }
    let halts := left #[0x70000000] { flush := some 1 }
    ((sends 2).mapChannel Metered.channel = left₀ #[0xD2000041, 0xA0000001, 0xA0000001] 2 ∧
      StoppedBy (.io "write 1 refused") (sends 2) (sends 3) ∧
      (sends 3).channel.channel = { input := [7], output := #[65] }) ∧
    ((divides 1).status = .faulted .divisionByZero ∧
      (divides 1).mapChannel Metered.channel = left₀ #[0x50000000] 1) ∧
    ∀ n, (halts n).mapChannel Metered.channel = left₀ #[0x70000000] n := by
  intro left left₀ sends divides halts
  refine ⟨?_, ?_, ?_⟩
  · obtain ⟨agree, contained, -⟩ := refusal_contained
      #[0xD2000041, 0xA0000001, 0xA0000001] [7] { write := some 1, flush := some 0 }
    obtain ⟨-, stopped, kept⟩ := contained 2 "write 1 refused" (by decide)
    exact ⟨agree 2 (by decide), stopped, kept.trans (by decide)⟩
  · obtain ⟨-, -, recorded, -⟩ := refusal_contained #[0x50000000] [7] { flush := some 0 }
    exact (recorded 0 .divisionByZero (by decide) rfl (by decide)).2
  · obtain ⟨-, -, -, unreached⟩ := refusal_contained #[0x70000000] [7] { flush := some 1 }
    refine unreached fun n => ?_
    -- The machine halts in its first step, and by then it has flushed once.
    have few : (halts n).channel.requests.flushes ≤ 1 := by
      cases n with
      | zero => exact Nat.zero_le 1
      | succ n =>
          have same : halts (n + 1) = halts 1 :=
            iterate_eq_of_stopped (Nat.le_add_left 1 n) (by decide)
          rw [same]
          decide
    exact ⟨nofun, nofun, fun number planned => Option.some.inj planned ▸ few⟩

end Machine

end UniversalMachine
