import Mathlib
import UniversalMachine.Channel.Buffer
import UniversalMachine.Proofs.Machine.Frame
import UniversalMachine.Proofs.Machine.Reachable

/-!
Runs as sequences of steps. A step answers with the status that it leaves, and a machine that
has stopped stays as it is. So a run with a limit leaves what that many steps leave and
answers with the status of it; and a run without a limit is one whose limit is large enough.
Only a run that may take no step answers differently: it reports a fault as a status.

Steps are counted without a bound here, and a limit may be any number. A machine that counts
its steps in sixty-four bits runs alike as long as the count stays below `2 ^ 64`, see
`Proofs/Checked/Machine`.
-/

namespace UniversalMachine

/-- The answer of a step that leaves a machine with the given status. -/
def Status.answer : Status → Except Fault Status
  | running => .ok .running
  | halted => .ok .halted
  | faulted fault => .error fault

theorem Status.answer_eq_running_iff {s : Status} : s.answer = .ok .running ↔ s = .running := by
  cases s <;> simp [answer]

theorem Status.answer_eq_halted_iff {s : Status} : s.answer = .ok .halted ↔ s = .halted := by
  cases s <;> simp [answer]

theorem Status.answer_ne_faulted (s : Status) (fault : Fault) :
    s.answer ≠ .ok (.faulted fault) := by
  cases s <;> simp [answer]

theorem Status.ok_eq_answer_iff {s : Status} :
    .ok s = s.answer ↔ ¬ ∃ fault, s.answer = .error fault := by
  cases s <;> simp [answer]

namespace Machine

variable {χ : Type} [Channel χ]

theorem Transition.answer_eq {m m' : Machine χ} {answer : Except Fault Status}
    (transition : Transition m answer m') (running : m.status = .running) :
    answer = m'.status.answer := by
  cases transition with
  | @next word _ _ executed =>
      have kept := (frame_execute m.advance word).status
      rw [executed] at kept
      rw [show m'.status = .running from kept.trans running]
      rfl
  | halt | fetchFault | fault => rfl

theorem Transition.steps_eq {m m' : Machine χ}
    (transition : Transition m (.ok .running) m') : m'.steps = m.steps + 1 := by
  cases transition with
  | @next word _ _ executed =>
      have kept := (frame_execute m.advance word).steps
      rwa [executed] at kept

theorem Transition.steps_bounds {m m' : Machine χ} {answer : Except Fault Status}
    (transition : Transition m answer m') : m.steps ≤ m'.steps ∧ m'.steps ≤ m.steps + 1 := by
  cases transition with
  | next fetched executed =>
      have counted := (Transition.next fetched executed).steps_eq
      omega
  | halt | fault => exact ⟨Nat.le_succ _, Nat.le_refl _⟩
  | fetchFault => exact ⟨Nat.le_refl _, Nat.le_succ _⟩

theorem step_eq (m : Machine χ) : m.step = (m.stepped.status.answer, m.stepped) := by
  refine Prod.ext ?_ rfl
  rw [stepped]
  cases status : m.status with
  | running => exact (transition status).answer_eq status
  | halted => simp only [step_of_halted status, status, Status.answer]
  | faulted fault => simp only [step_of_faulted status, status, Status.answer]

theorem step_fst_eq_running_iff {m : Machine χ} :
    m.step.1 = .ok .running ↔ m.stepped.status = .running := by
  rw [step_eq, Status.answer_eq_running_iff]

/-! ### Any number of steps -/

theorem stepped_of_stopped {m : Machine χ} (stopped : m.status ≠ .running) :
    m.stepped = m := by
  rw [stepped]
  cases status : m.status with
  | running => exact absurd status stopped
  | halted => rw [step_of_halted status]
  | faulted fault => rw [step_of_faulted status]

theorem running_of_stepped {m : Machine χ} (running : m.stepped.status = .running) :
    m.status = .running := by
  by_contra stopped
  rw [stepped_of_stopped stopped] at running
  exact stopped running

theorem iterate_eq_of_stopped {m : Machine χ} {k n : ℕ} (le : k ≤ n)
    (stopped : (stepped^[k] m).status ≠ .running) : stepped^[n] m = stepped^[k] m := by
  rw [← Nat.sub_add_cancel le, Function.iterate_add_apply,
    Function.iterate_fixed (stepped_of_stopped stopped)]

/-- However it is reached, a machine that has stopped is the same. -/
theorem iterate_eq_iterate_of_stopped {m : Machine χ} {k n : ℕ}
    (stopped : (stepped^[k] m).status ≠ .running) (stopped' : (stepped^[n] m).status ≠ .running) :
    stepped^[n] m = stepped^[k] m := by
  obtain le | le := Nat.le_total k n
  · exact iterate_eq_of_stopped le stopped
  · exact (iterate_eq_of_stopped le stopped').symm

theorem running_of_iterate {m : Machine χ} {k n : ℕ} (le : k ≤ n)
    (running : (stepped^[n] m).status = .running) : (stepped^[k] m).status = .running := by
  by_contra stopped
  rw [iterate_eq_of_stopped le stopped] at running
  exact stopped running

/-- A machine that has stopped was stopped by one of its steps. -/
theorem exists_last_step {m : Machine χ} (running : m.status = .running) {n : ℕ}
    (stopped : (stepped^[n] m).status ≠ .running) :
    ∃ k < n, (stepped^[k] m).status = .running ∧ stepped^[k + 1] m = stepped^[n] m := by
  induction n with
  | zero => exact absurd running stopped
  | succ n ih =>
      by_cases going : (stepped^[n] m).status = .running
      · exact ⟨n, Nat.lt_succ_self n, going, rfl⟩
      · obtain ⟨k, lt, before, last⟩ := ih going
        rw [iterate_eq_of_stopped (Nat.le_succ n) going]
        exact ⟨k, Nat.lt_succ_of_lt lt, before, last⟩

theorem steps_iterate_le (m : Machine χ) (n : ℕ) :
    m.steps ≤ (stepped^[n] m).steps ∧ (stepped^[n] m).steps ≤ m.steps + n := by
  induction n with
  | zero => exact ⟨Nat.le_refl _, Nat.le_refl _⟩
  | succ n ih =>
      rw [Function.iterate_succ_apply']
      by_cases running : (stepped^[n] m).status = .running
      · have last := (transition running).steps_bounds
        rw [← stepped] at last
        omega
      · rw [stepped_of_stopped running]
        omega

theorem steps_iterate_eq {m : Machine χ} {n : ℕ} (running : (stepped^[n] m).status = .running) :
    (stepped^[n] m).steps = m.steps + n := by
  induction n with
  | zero => rfl
  | succ n ih =>
      rw [Function.iterate_succ_apply'] at running ⊢
      have before := running_of_stepped running
      have last := transition before
      rw [step_fst_eq_running_iff.mpr running] at last
      rw [stepped, last.steps_eq, ih before, Nat.add_assoc]

/-! ### Runs -/

theorem run_succ (m : Machine χ) (limit : ℕ) :
    m.run (limit + 1) =
      if m.stepped.status = .running then m.stepped.run limit
      else (m.stepped.status.answer, m.stepped) := by
  rw [run, step_eq]
  cases m.stepped.status <;> simp [Status.answer]

theorem runToEnd?_succ (m : Machine χ) (fuel : ℕ) :
    m.runToEnd? (fuel + 1) =
      if m.stepped.status = .running then m.stepped.runToEnd? fuel
      else some (m.stepped.status.answer, m.stepped) := by
  rw [runToEnd?, step_eq]
  cases m.stepped.status <;> simp [Status.answer]

/-- A run that may take a step answers with the status of the machine that it leaves. -/
theorem run_eq {m : Machine χ} {limit : ℕ} (pos : limit ≠ 0) :
    m.run limit = ((stepped^[limit] m).status.answer, stepped^[limit] m) := by
  obtain ⟨limit, rfl⟩ := Nat.exists_eq_succ_of_ne_zero pos
  clear pos
  induction limit generalizing m with
  | zero =>
      rw [run_succ, Function.iterate_one]
      split
      next running => rw [run, running, Status.answer]
      next => rfl
  | succ limit ih =>
      rw [run_succ, Function.iterate_succ_apply]
      split
      next => exact ih
      next stopped => rw [Function.iterate_fixed (stepped_of_stopped stopped)]

theorem run_snd (m : Machine χ) (limit : ℕ) : (m.run limit).2 = stepped^[limit] m := by
  cases limit with
  | zero => rfl
  | succ limit => rw [run_eq (Nat.succ_ne_zero limit)]

/-- A run without a limit ends within the fuel if a run with that limit stops the machine,
and then the two are the same. -/
theorem runToEnd?_eq (m : Machine χ) (fuel : ℕ) :
    m.runToEnd? fuel = if (m.run fuel).1 = .ok .running ∨ fuel = 0 then none
      else some (m.run fuel) := by
  induction fuel generalizing m with
  | zero => simp [runToEnd?]
  | succ fuel ih =>
      rw [runToEnd?_succ, run_succ]
      split
      next running =>
        rw [ih]
        cases fuel with
        | zero => simp [run, running]
        | succ fuel => simp
      next stopped => simp [Status.answer_eq_running_iff, stopped]

/-! ### Calls of `step` -/

/-- What the call of `step` with a given number answers, the first being number zero. -/
def answer (m : Machine χ) (i : ℕ) : Except Fault Status :=
  (stepped^[i] m).step.1

theorem answer_eq (m : Machine χ) (i : ℕ) :
    m.answer i = (stepped^[i + 1] m).status.answer := by
  rw [answer, step_eq, Function.iterate_succ_apply']

theorem answer_ne_running_iff {m : Machine χ} {i : ℕ} :
    m.answer i ≠ .ok .running ↔ (stepped^[i + 1] m).status ≠ .running := by
  rw [answer_eq, Ne, Status.answer_eq_running_iff]

theorem running_iterate_iff {m : Machine χ} (running : m.status = .running) {n : ℕ} :
    (stepped^[n] m).status = .running ↔ ∀ k < n, m.answer k = .ok .running := by
  constructor
  · intro going k lt
    rw [answer_eq, Status.answer_eq_running_iff]
    exact running_of_iterate lt going
  · intro going
    cases n with
    | zero => exact running
    | succ n =>
        have last := going n (Nat.lt_succ_self n)
        rwa [answer_eq, Status.answer_eq_running_iff] at last

/-! ### Runs from a running machine -/

section
variable {m : Machine χ} (running : m.status = .running)
include running

theorem run_eq_of_running (limit : ℕ) :
    m.run limit = ((stepped^[limit] m).status.answer, stepped^[limit] m) := by
  cases limit with
  | zero =>
      rw [run, Function.iterate_zero_apply, running]
      rfl
  | succ limit => exact run_eq (Nat.succ_ne_zero limit)

/-- A run that begins with the running status takes as many steps as its limit says or, if it
has none, as the fuel allows, and must then have stopped the machine. -/
theorem runFor?_eq_some_iff {fuel : ℕ} {limit : Option ℕ}
    {result : Except Fault Status × Machine χ} :
    m.runFor? fuel limit = some result ↔
      (limit = none → (stepped^[limit.getD fuel] m).status ≠ .running) ∧
        ((stepped^[limit.getD fuel] m).status.answer, stepped^[limit.getD fuel] m) = result := by
  cases limit with
  | some limit => simp [runFor?, run_eq_of_running running]
  | none =>
      have zero : fuel = 0 → (stepped^[fuel] m).status = .running := by
        rintro rfl
        exact running
      simp only [runFor?, runToEnd?_eq, run_eq_of_running running, Status.answer_eq_running_iff,
        Option.getD_none, forall_const]
      by_cases going : (stepped^[fuel] m).status = .running
      · simp [going]
      · simp [going, mt zero going]

theorem runFor?_of_status {fuel : ℕ} {limit : Option ℕ} {s : Status}
    (status : (stepped^[limit.getD fuel] m).status = s) (ends : limit = none → s ≠ .running) :
    m.runFor? fuel limit = some (s.answer, stepped^[limit.getD fuel] m) := by
  rw [runFor?_eq_some_iff running, status]
  exact ⟨ends, rfl⟩

/-- A run that ends has halted the machine, met a fault or spent its limit. -/
theorem runFor?_cases {m' : Machine χ} {answer : Except Fault Status} {fuel : ℕ} {limit : Option ℕ}
    (ran : m.runFor? fuel limit = some (answer, m')) :
    answer = .ok .halted ∨ (∃ fault, answer = .error fault) ∨
      ∃ n, limit = some n ∧ answer = .ok .running ∧ m.run n = (.ok .running, m') := by
  obtain ⟨ends, same⟩ := (runFor?_eq_some_iff running).mp ran
  obtain ⟨rfl, rfl⟩ := Prod.mk.inj same
  cases status : (stepped^[limit.getD fuel] m).status with
  | halted => exact .inl rfl
  | faulted fault => exact .inr (.inl ⟨fault, rfl⟩)
  | running =>
      cases limit with
      | none => exact absurd status (ends rfl)
      | some n =>
          rw [status] at ran
          exact .inr (.inr ⟨n, rfl, rfl, Option.some.inj ran⟩)

end

/-- A result of at most `limit` calls of `step`, of which the first that answers otherwise
than with the running status is the last. -/
inductive Cut (m : Machine χ) (limit : ℕ) : Except Fault Status × Machine χ → Prop
  | spent (going : ∀ i < limit, m.answer i = .ok .running) :
      Cut m limit (.ok (stepped^[limit] m).status, stepped^[limit] m)
  | ended {k : ℕ} (within : k < limit) (going : ∀ i < k, m.answer i = .ok .running)
      (last : m.answer k ≠ .ok .running) : Cut m limit (m.answer k, stepped^[k + 1] m)

theorem run_eq_of_ended {m : Machine χ} {k limit : ℕ} (last : m.answer k ≠ .ok .running)
    (within : k < limit) : m.run limit = (m.answer k, stepped^[k + 1] m) := by
  rw [run_eq (Nat.ne_zero_of_lt within), answer_eq,
    iterate_eq_of_stopped within (answer_ne_running_iff.mp last)]

theorem cut_run (m : Machine χ) (limit : ℕ) : m.Cut limit (m.run limit) := by
  -- Without a last call within the limit, every call of the run is spent.
  by_cases ends : ∃ k, k < limit ∧ m.answer k ≠ .ok .running
  · obtain ⟨within, last⟩ := Nat.find_spec ends
    rw [run_eq_of_ended last within]
    refine .ended within (fun i lt => ?_) last
    by_contra earlier
    exact Nat.find_min ends lt ⟨Nat.lt_trans lt within, earlier⟩
  · have going : ∀ i < limit, m.answer i = .ok .running := by
      intro i lt
      by_contra earlier
      exact ends ⟨i, lt, earlier⟩
    have spent := Cut.spent going
    cases limit with
    | zero => exact spent
    | succ limit =>
        have running := Status.answer_eq_running_iff.mp
          ((m.answer_eq limit).symm.trans (going limit (Nat.lt_succ_self limit)))
        rw [running] at spent
        rwa [run_eq (Nat.succ_ne_zero limit), running]

/-- A second run goes on where the first was cut. Its answer is that of one run with both
limits, unless the first met a fault and the second may take no step. -/
theorem run_run (m : Machine χ) (limit more : ℕ) :
    ((m.run limit).2.run more).2 = (m.run (limit + more)).2 ∧
      (((m.run limit).2.run more).1 = (m.run (limit + more)).1 ↔
        ¬ (more = 0 ∧ ∃ fault, (m.run limit).1 = .error fault)) := by
  have together : stepped^[more] (stepped^[limit] m) = stepped^[limit + more] m := by
    rw [Nat.add_comm, Function.iterate_add_apply]
  constructor
  · rw [run_snd, run_snd, run_snd, together]
  · rw [run_snd]
    by_cases zero : more = 0
    · subst zero
      cases limit with
      | zero => simp [run]
      | succ limit =>
          rw [Nat.add_zero, run, run_eq (Nat.succ_ne_zero limit), Status.ok_eq_answer_iff]
          simp
    · rw [run_eq zero, run_eq (by omega : limit + more ≠ 0), together]
      simp [zero]

theorem run_fst_eq_faulted_iff {m : Machine χ} {limit : ℕ} {fault : Fault} :
    (m.run limit).1 = .ok (.faulted fault) ↔ limit = 0 ∧ m.status = .faulted fault := by
  cases limit with
  | zero => simp [run]
  | succ limit => simp [run_eq (Nat.succ_ne_zero limit), Status.answer_ne_faulted]

theorem runToEnd?_eq_of_ended {m : Machine χ} {k fuel : ℕ} (last : m.answer k ≠ .ok .running)
    (within : k < fuel) : m.runToEnd? fuel = some (m.answer k, stepped^[k + 1] m) := by
  rw [runToEnd?_eq, run_eq_of_ended last within, if_neg]
  rintro (running | zero)
  · exact last running
  · omega

theorem run_eq_of_runToEnd? {m : Machine χ} {fuel : ℕ}
    {result : Except Fault Status × Machine χ} (ended : m.runToEnd? fuel = some result) :
    m.run fuel = result ∧ ∃ k < fuel, m.answer k ≠ .ok .running := by
  rw [runToEnd?_eq] at ended
  split at ended
  next => cases ended
  next going =>
    refine ⟨Option.some.inj ended, fuel - 1, by omega, fun running => going (.inl ?_)⟩
    have pos : fuel ≠ 0 := fun zero => going (.inr zero)
    rw [run_eq pos, ← running, answer_eq, Nat.sub_add_cancel (Nat.pos_of_ne_zero pos)]

/-- The result of a run is that of the first call of `step` that stops the machine, if there is one
within the limit. -/
theorem runFor?_eq_of_ended {m : Machine χ} {k : ℕ} (running : m.status = .running)
    (last : m.answer k ≠ .ok .running) {limit : Option ℕ} (within : ∀ n, limit = some n → k < n)
    {fuel : ℕ} {result : Except Fault Status × Machine χ}
    (ran : m.runFor? fuel limit = some result) : (m.answer k, stepped^[k + 1] m) = result := by
  obtain ⟨ends, rfl⟩ := (runFor?_eq_some_iff running).mp ran
  have stopped := answer_ne_running_iff.mp last
  have same : stepped^[limit.getD fuel] m = stepped^[k + 1] m := by
    cases limit with
    | none => exact iterate_eq_iterate_of_stopped stopped (ends rfl)
    | some n => exact iterate_eq_of_stopped (within n rfl) stopped
  rw [same, answer_eq]

theorem exists_runFor?_of_ended {m : Machine χ} {k : ℕ} (last : m.answer k ≠ .ok .running)
    {limit : Option ℕ} (within : ∀ n, limit = some n → k < n) :
    ∃ fuel, m.runFor? fuel limit = some (m.answer k, stepped^[k + 1] m) := by
  refine ⟨k + 1, ?_⟩
  cases limit with
  | none => exact runToEnd?_eq_of_ended last (Nat.lt_succ_self k)
  | some n => exact congrArg some (run_eq_of_ended last (within n rfl))

/-- A limit cuts a run and does nothing else. A run is a number of calls of `step`, at most
as many as the limit and up to the first that stops the machine, with the answer of the last;
it counts as many instructions as the limit if the machine is still running, and never more.
Runs add up, and a run without a limit is each run that is not cut short. A fault is reported
as a status only when the limit is zero and the machine has faulted before. Counts and limits
are numbers without a bound; `Proofs/Checked/Machine` relates them to those of sixty-four bits. -/
theorem limit_only_cuts_run (m : Machine χ) :
    (∀ limit, m.Cut limit (m.run limit)) ∧
    (∀ limit, ((m.run limit).1 = .ok .running → (m.run limit).2.steps = m.steps + limit) ∧
      m.steps ≤ (m.run limit).2.steps ∧ (m.run limit).2.steps ≤ m.steps + limit) ∧
    (∀ limit more, ((m.run limit).2.run more).2 = (m.run (limit + more)).2 ∧
      (((m.run limit).2.run more).1 = (m.run (limit + more)).1 ↔
        ¬ (more = 0 ∧ ∃ fault, (m.run limit).1 = .error fault))) ∧
    ((∃ fuel result, m.runToEnd? fuel = some result) ↔ ∃ k, m.answer k ≠ .ok .running) ∧
    (∀ k, m.answer k ≠ .ok .running → ∀ fuel result, m.runToEnd? fuel = some result →
      ∀ limit, k < limit → m.run limit = result) ∧
    (∀ limit fault, (m.run limit).1 = .ok (.faulted fault) ↔
      limit = 0 ∧ m.status = .faulted fault) ∧
    ∀ fuel fault m', m.runToEnd? fuel ≠ some (.ok (.faulted fault), m') := by
  refine ⟨m.cut_run, fun limit => ⟨fun running => ?_, ?_⟩, m.run_run, ⟨?_, ?_⟩, ?_,
    fun _ _ => run_fst_eq_faulted_iff, ?_⟩
  · rw [run_snd]
    apply steps_iterate_eq
    cases limit with
    | zero => exact Except.ok.inj running
    | succ limit =>
        rw [run_eq (Nat.succ_ne_zero limit)] at running
        exact Status.answer_eq_running_iff.mp running
  · rw [run_snd]
    exact m.steps_iterate_le limit
  · rintro ⟨fuel, result, ended⟩
    obtain ⟨-, k, -, last⟩ := run_eq_of_runToEnd? ended
    exact ⟨k, last⟩
  · rintro ⟨k, last⟩
    exact ⟨k + 1, _, runToEnd?_eq_of_ended last (Nat.lt_succ_self k)⟩
  · intro k last fuel result ended limit within
    obtain ⟨rfl, i, lt, last'⟩ := run_eq_of_runToEnd? ended
    have long : m.run limit = m.run (limit + fuel) := by
      rw [run_eq_of_ended last within, run_eq_of_ended last (Nat.lt_add_right fuel within)]
    have long' : m.run fuel = m.run (limit + fuel) := by
      rw [run_eq_of_ended last' lt, run_eq_of_ended last' (Nat.lt_add_left limit lt)]
    rw [long, long']
  · intro fuel fault m' ended
    obtain ⟨same, i, lt, -⟩ := run_eq_of_runToEnd? ended
    obtain ⟨zero, -⟩ := run_fst_eq_faulted_iff.mp (congrArg Prod.fst same)
    omega

/-- After a fault the machine reports it to every further run, but as a status to a run that
may take no step. Without a limit it ends as with any limit from two up. -/
theorem spent_limit_reports_status :
    let m : Machine Buffer := start #[0xD2000002, 0x50000000] {}
    (m.run 1).2.steps = 1 ∧
      (∃ result, m.runToEnd? 7 = some result ∧ m.run 2 = result ∧ m.run 100 = result) ∧
      ((m.run 2).2.run 0).1 = .ok (.faulted .divisionByZero) ∧
      ((m.run 2).2.run 0).1 ≠ (m.run (2 + 0)).1 := by
  intro m
  obtain ⟨-, counted, split, -, alike, -⟩ := limit_only_cuts_run m
  have last : m.answer 1 ≠ .ok .running := by decide
  have ended : m.runToEnd? 7 = some (m.answer 1, stepped^[2] m) :=
    runToEnd?_eq_of_ended last (by decide)
  refine ⟨(counted 1).1 (by decide), ⟨_, ended, alike 1 last 7 _ ended 2 (by decide),
    alike 1 last 7 _ ended 100 (by decide)⟩, by decide, ?_⟩
  rw [Ne, (split 2 0).2, not_not]
  exact ⟨rfl, .divisionByZero, by decide⟩

end Machine

end UniversalMachine
