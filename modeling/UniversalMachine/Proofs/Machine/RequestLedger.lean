import Mathlib
import UniversalMachine.Channel.Buffer
import UniversalMachine.Channel.Metered
import UniversalMachine.Proofs.Machine.Calls
import UniversalMachine.Proofs.Machine.Requests

/-!
The requests that a channel gets. One byte is written for each output instruction that is carried
out on a value that a byte can hold, one is read for each input instruction, and both are counted
whether the channel refuses or not. The channel is flushed when the machine leaves the running
state and at no other time: once, or twice if it was to halt and the first flush was refused.
Once the machine has stopped there are no more requests.

Requests are counted by a metered channel that refuses nothing itself. A machine does not notice
the meter, so its counts are those of the channel within.
-/

namespace UniversalMachine.Machine

variable {χ : Type} [Channel χ]

/-- The next step is to halt the machine, but the channel refuses to be flushed. -/
def HaltRefused (m : Machine χ) (reason : String) : Prop :=
  m.next? = some .halt ∧ (Channel.flush m.channel).1 = .error reason

/-! ### The counts of a meter -/

section
variable (m : Machine (Metered χ))

theorem keeps_plan (plan : FailurePlan) : Keeps fun c : Metered χ => c.plan = plan where
  write c byte same := (c.plan_write byte).trans same
  read c same := c.plan_read.trans same
  flush c same := c.plan_flush.trans same

theorem counts_writes : Counts (fun _ : Metered χ => True) (·.requests.writes) 1 0 where
  write c byte _ := by simp only [c.requests_write]
  read c _ := by simp only [c.requests_read, Nat.add_zero]

theorem counts_reads : Counts (fun _ : Metered χ => True) (·.requests.reads) 0 1 where
  write c byte _ := by simp only [c.requests_write, Nat.add_zero]
  read c _ := by simp only [c.requests_read]

theorem counts_no_flushes : Counts (fun _ : Metered χ => True) (·.requests.flushes) 0 0 where
  write c byte _ := by simp only [c.requests_write, Nat.add_zero]
  read c _ := by simp only [c.requests_read, Nat.add_zero]

theorem flushes_channelAfter {i : Instruction} (next : m.next? = some i) :
    (m.channelAfter i).requests.flushes = m.channel.requests.flushes := by
  have counted := counts_no_flushes.channelAfter (m := m) trivial next
  rwa [Nat.zero_mul, Nat.zero_mul] at counted

/-- A step counts a request to write or to read if it makes one. -/
theorem requests_stepped :
    m.stepped.channel.requests =
      { writes := m.channel.requests.writes + m.sends.toNat
        reads := m.channel.requests.reads + m.receives.toNat
        flushes := m.stepped.channel.requests.flushes } := by
  have writes := counts_writes.stepped (m := m) trivial keeps_true
    fun c _ => by simp only [c.requests_flush]
  have reads := counts_reads.stepped (m := m) trivial keeps_true
    fun c _ => by simp only [c.requests_flush]
  simp only [Nat.one_mul, Nat.zero_mul, Nat.add_zero] at writes reads
  rw [← writes, ← reads]

theorem flushes_stepped_of_running {m : Machine (Metered χ)}
    (running : m.stepped.status = .running) :
    m.stepped.channel.requests.flushes = m.channel.requests.flushes := by
  have left := leaves (running_of_stepped running)
  generalize m.stepped.channel = channel at left ⊢
  rw [running] at left
  cases left with
  | next next => rw [m.flushes_channelAfter next]

theorem flushes_stepped_of_last {m : Machine (Metered χ)} (running : m.status = .running)
    (last : m.stepped.status ≠ .running) :
    (∃ reason, m.HaltRefused reason ∧ m.stepped.status = .faulted (.io reason) ∧
        m.stepped.channel.requests.flushes = m.channel.requests.flushes + 2) ∨
      (∀ reason, ¬ m.HaltRefused reason) ∧
        m.stepped.channel.requests.flushes = m.channel.requests.flushes + 1 := by
  have left := leaves running
  generalize m.stepped.channel = channel, m.stepped.status = status at left last ⊢
  cases left with
  | next => exact absurd rfl last
  | halted next flushed =>
      refine .inr ⟨fun reason ⟨_, refused⟩ => ?_, ?_⟩
      · rw [flushed] at refused
        cases refused
      · rw [m.channel.requests_of_flush flushed]
  | @haltRefused reason _ next refused =>
      refine .inl ⟨reason, ⟨next, congrArg Prod.fst refused⟩, rfl, ?_⟩
      rw [Metered.requests_flush, m.channel.requests_of_flush refused]
  | fetchFault next =>
      refine .inr ⟨fun reason ⟨halt, _⟩ => ?_, ?_⟩
      · exact Option.some_ne_none _ (halt.symm.trans next)
      · rw [Metered.requests_flush]
  | fault next other =>
      refine .inr ⟨fun reason ⟨halt, _⟩ => ?_, ?_⟩
      · exact other (Option.some.inj (next.symm.trans halt))
      · rw [Metered.requests_flush, m.flushes_channelAfter next]

end

/-! ### Requests of any number of steps -/

/-- The requests that the channel of a machine has had after `n` steps: one to write or to read
for each step that makes one, and no flush until the machine has stopped. The step that stops
the machine flushes once, and once more if the first flush was to halt and was refused; the
machine has then stopped by a fault. -/
structure Ledger (m : Machine (Metered χ)) (n : ℕ) : Prop where
  writes : (stepped^[n] m).channel.requests.writes = n.count fun k => (stepped^[k] m).sends
  reads : (stepped^[n] m).channel.requests.reads = n.count fun k => (stepped^[k] m).receives
  running : (stepped^[n] m).status = .running → (stepped^[n] m).channel.requests.flushes = 0
  stopped : (stepped^[n] m).status ≠ .running →
    ∃ k < n, (stepped^[k] m).status = .running ∧ stepped^[k + 1] m = stepped^[n] m ∧
      ((∃ reason, (stepped^[k] m).HaltRefused reason ∧
          (stepped^[n] m).status = .faulted (.io reason) ∧
          (stepped^[n] m).channel.requests.flushes = 2) ∨
        (∀ reason, ¬ (stepped^[k] m).HaltRefused reason) ∧
          (stepped^[n] m).channel.requests.flushes = 1)

theorem flushes_iterate_of_running {m : Machine (Metered χ)} {n : ℕ}
    (running : (stepped^[n] m).status = .running) :
    (stepped^[n] m).channel.requests.flushes = m.channel.requests.flushes := by
  induction n with
  | zero => rfl
  | succ n ih =>
      rw [Function.iterate_succ_apply'] at running ⊢
      rw [flushes_stepped_of_running running, ih (running_of_stepped running)]

theorem ledger {m : Machine (Metered χ)} (running : m.status = .running)
    (fresh : m.channel.requests = {}) (n : ℕ) : m.Ledger n where
  writes := by
    have counted := counts_writes.iterate (m := m) trivial keeps_true
      (fun c _ => by simp only [c.requests_flush]) n
    simpa only [fresh, Nat.zero_add, Nat.one_mul, Nat.zero_mul, Nat.add_zero] using counted
  reads := by
    have counted := counts_reads.iterate (m := m) trivial keeps_true
      (fun c _ => by simp only [c.requests_flush]) n
    simpa only [fresh, Nat.zero_add, Nat.one_mul, Nat.zero_mul] using counted
  running going := by rw [flushes_iterate_of_running going, fresh]
  stopped stopped := by
    obtain ⟨k, lt, going, last⟩ := exists_last_step running stopped
    refine ⟨k, lt, going, last, ?_⟩
    have none := flushes_iterate_of_running going
    rw [← last, Function.iterate_succ_apply'] at stopped ⊢
    have counted := flushes_stepped_of_last going stopped
    rwa [none, fresh, Nat.zero_add, Nat.zero_add] at counted

/-! ### The meter is not noticed -/

theorem plan_of_idle {c c' : Metered χ} (idle : Relation.ReflTransGen Idle c c') :
    c'.plan = c.plan := by
  induction idle with
  | refl => rfl
  | @tail b c' _ last same =>
      rw [← same]
      cases last with
      | @write _ byte _ refused =>
          have kept := Metered.plan_write b byte
          rwa [refused] at kept
      | read refused =>
          have kept := Metered.plan_read b
          rwa [refused] at kept
      | flush => exact Metered.plan_flush b

theorem carries_within {m : Machine (Metered χ)} (passes : m.channel.plan = {}) :
    Carries Metered.channel m where
  write o _ _ := Metered.write_within _ (by rw [passes]; nofun)
  read _ := Metered.read_within (by rw [passes]; nofun)
  halt _ := congrArg Prod.fst (Metered.flush_within (by rw [passes]; nofun))
  flush c idle := by
    have passes' : c.plan = {} := (plan_of_idle idle).trans passes
    exact congrArg Prod.snd (Metered.flush_within (by rw [passes']; nofun))

theorem plan_iterate (m : Machine (Metered χ)) (n : ℕ) :
    (stepped^[n] m).channel.plan = m.channel.plan :=
  (keeps_plan m.channel.plan).iterate rfl n

theorem calls?_within (program : Array Word) (channel : χ) (fuel : ℕ) (calls : List Call) :
    (start program channel).calls? fuel calls =
      ((start program ({ channel } : Metered χ)).calls? fuel calls).map
        (Prod.map id (mapChannel Metered.channel)) := by
  have carries (k : ℕ) :
      Carries Metered.channel (stepped^[k] (start program ({ channel } : Metered χ))) :=
    carries_within (plan_iterate _ k)
  exact calls?_mapChannel carries fuel calls

/-- Whatever a host calls on a machine, and however its channel answers: a meter on the channel
makes no difference, and its counts are those of the requests that the steps make. A machine that
has stopped answers every further call from its status and stays as it is, its channel and the
counts of a meter on it included. -/
theorem requests_accounted_for (program : Array Word) (channel : χ) :
    (∀ fuel calls, (start program channel).calls? fuel calls =
      ((start program ({ channel } : Metered χ)).calls? fuel calls).map
        (Prod.map id (mapChannel Metered.channel))) ∧
    (∀ fuel calls answers m,
      (start program ({ channel } : Metered χ)).calls? fuel calls = some (answers, m) →
        ∃ n, m = stepped^[n] (start program { channel }) ∧
          (start program ({ channel } : Metered χ)).Ledger n) ∧
    ∀ (ω : Type) [Channel ω] (m : Machine ω), m.status ≠ .running →
      ∀ fuel calls, m.calls? (fuel + 1) calls = some (calls.map m.status.reply, m) := by
  refine ⟨calls?_within program channel, fun fuel calls answers m done => ?_, ?_⟩
  · obtain ⟨n, left⟩ := exists_iterate_of_calls? done
    exact ⟨n, left, ledger rfl rfl n⟩
  · intro ω _ m stopped fuel calls
    exact calls?_of_stopped stopped fuel calls

/-- A channel that refuses its first flush gets a second one when the machine is to halt. After
that the machine only repeats that it has faulted. -/
theorem refused_halt_flushes_twice :
    let refusal : Fault := .io "flush 0 refused"
    let channel : Metered Buffer := { channel := { input := [7] }, plan := { flush := some 0 } }
    let m : Machine (Metered (Metered Buffer)) :=
      start #[0xA0000000, 0xB0000001, 0x70000000] { channel }
    ∃ m', m.calls? 9 [.step, .run none] = some ([.ok .running, .error refusal], m') ∧
      m'.channel.requests = { writes := 1, reads := 1, flushes := 2 } ∧
      (∃ n, m' = stepped^[n] m ∧ m.Ledger n) ∧
      m'.calls? 9 [.run (some 0), .step] = some ([.ok (.faulted refusal), .error refusal], m') := by
  intro refusal channel m
  obtain ⟨-, accounted, stays⟩ :=
    requests_accounted_for #[0xA0000000, 0xB0000001, 0x70000000] channel
  have seen : (m.calls? 9 [.step, .run none]).map
      (fun result => (result.1, result.2.status, result.2.channel.requests)) =
        some ([.ok .running, .error refusal], .faulted refusal,
          { writes := 1, reads := 1, flushes := 2 }) := by decide +kernel
  obtain ⟨⟨answers, m'⟩, done, same⟩ := Option.map_eq_some_iff.mp seen
  simp only [Prod.mk.injEq] at same
  obtain ⟨rfl, faulted, counted⟩ := same
  refine ⟨m', done, counted, accounted 9 _ _ _ done, ?_⟩
  have repeated := stays _ m' (by rw [faulted]; nofun) 8 [.run (some 0), .step]
  rwa [faulted] at repeated

end UniversalMachine.Machine
