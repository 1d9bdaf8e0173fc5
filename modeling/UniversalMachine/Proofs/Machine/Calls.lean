import Mathlib
import UniversalMachine.Proofs.Machine.ChannelMap

/-!
What a host asks of a machine: steps, and runs with and without a limit, in any order. All that
such calls do is take steps; so whatever they leave is left by a number of steps. A machine that
has stopped answers every call from its status and stays as it is.
-/

namespace UniversalMachine

/-- A call that a machine answers. A run without a limit may never answer. -/
inductive Machine.Call where
  | step
  | run (limit : Option ℕ)
  deriving DecidableEq

/-- What a machine that has stopped answers to a call. -/
def Status.reply (s : Status) : Machine.Call → Except Fault Status
  | .run (some 0) => .ok s
  | .step | .run _ => s.answer

namespace Machine

variable {χ ω : Type} [Channel χ] [Channel ω]

/-- The answer to a call, if fuel is enough for it, and the machine that it leaves. -/
def call? (fuel : ℕ) (m : Machine χ) : Call → Option (Except Fault Status × Machine χ)
  | .step => some m.step
  | .run limit => m.runFor? fuel limit

/-- The answers to a sequence of calls, each of which has the fuel, and the machine that the
last one leaves. -/
def calls? (fuel : ℕ) :
    List Call → Machine χ → Option (List (Except Fault Status) × Machine χ)
  | [], m => some ([], m)
  | call :: calls, m =>
      (m.call? fuel call).bind fun (answer, m) =>
        (calls? fuel calls m).map fun (answers, m) => (answer :: answers, m)

theorem calls?_cons_eq_some {fuel : ℕ} {call : Call} {calls : List Call} {m m' : Machine χ}
    {answers : List (Except Fault Status)}
    (done : m.calls? fuel (call :: calls) = some (answers, m')) :
    ∃ answer next rest, m.call? fuel call = some (answer, next) ∧
      next.calls? fuel calls = some (rest, m') ∧ answers = answer :: rest := by
  obtain ⟨⟨answer, next⟩, called, mapped⟩ := Option.bind_eq_some_iff.mp done
  obtain ⟨⟨rest, last⟩, called', same⟩ := Option.map_eq_some_iff.mp mapped
  obtain ⟨rfl, rfl⟩ := Prod.ext_iff.mp same
  exact ⟨answer, next, rest, called, called', rfl⟩

/-! ### Calls are steps -/

theorem exists_iterate_of_call? {fuel : ℕ} {call : Call} {m m' : Machine χ}
    {answer : Except Fault Status} (called : m.call? fuel call = some (answer, m')) :
    ∃ n, m' = stepped^[n] m := by
  cases call with
  | step => exact ⟨1, (Prod.ext_iff.mp (Option.some.inj called)).2.symm⟩
  | run limit =>
      cases limit with
      | some limit =>
          have left := (Prod.ext_iff.mp (Option.some.inj called)).2
          exact ⟨limit, left.symm.trans (m.run_snd limit)⟩
      | none =>
          obtain ⟨same, -⟩ := run_eq_of_runToEnd? called
          have left := (Prod.ext_iff.mp same).2
          exact ⟨fuel, left.symm.trans (m.run_snd fuel)⟩

theorem exists_iterate_of_calls? {fuel : ℕ} {calls : List Call} {m m' : Machine χ}
    {answers : List (Except Fault Status)}
    (done : m.calls? fuel calls = some (answers, m')) : ∃ n, m' = stepped^[n] m := by
  induction calls generalizing m answers with
  | nil => exact ⟨0, (Prod.ext_iff.mp (Option.some.inj done)).2.symm⟩
  | cons call calls ih =>
      obtain ⟨answer, next, rest, called, done', -⟩ := calls?_cons_eq_some done
      obtain ⟨first, rfl⟩ := exists_iterate_of_call? called
      obtain ⟨more, rfl⟩ := ih done'
      exact ⟨more + first, (Function.iterate_add_apply stepped more first m).symm⟩

/-! ### Calls to a machine that has stopped -/

section
variable {m : Machine χ} (stopped : m.status ≠ .running)
include stopped

theorem call?_of_stopped (fuel : ℕ) (call : Call) :
    m.call? (fuel + 1) call = some (m.status.reply call, m) := by
  have answer_ne : m.status.answer ≠ .ok .running := by
    rwa [Ne, Status.answer_eq_running_iff]
  have run {limit : ℕ} : m.run (limit + 1) = (m.status.answer, m) := by
    rw [run_succ, stepped_of_stopped stopped, if_neg stopped]
  cases call with
  | step =>
      rw [call?, step_eq, stepped_of_stopped stopped]
      rfl
  | run limit =>
      cases limit with
      | none =>
          rw [call?, runFor?, runToEnd?_eq, run, if_neg]
          · rfl
          · rintro (running | zero)
            · exact answer_ne running
            · exact Nat.succ_ne_zero fuel zero
      | some limit =>
          cases limit with
          | zero => rfl
          | succ limit =>
              rw [call?, runFor?, run]
              rfl

theorem calls?_of_stopped (fuel : ℕ) (calls : List Call) :
    m.calls? (fuel + 1) calls = some (calls.map m.status.reply, m) := by
  induction calls with
  | nil => rfl
  | cons call calls ih =>
      simp only [calls?, call?_of_stopped stopped, Option.bind_some, ih]
      rfl

end

/-! ### Calls to a machine on another channel -/

section
variable {f : χ → ω} {m : Machine χ} (carries : ∀ k, Carries f (stepped^[k] m))
include carries

theorem call?_mapChannel (fuel : ℕ) (call : Call) :
    (m.mapChannel f).call? fuel call =
      (m.call? fuel call).map (Prod.map id (mapChannel f)) := by
  cases call with
  | step => exact congrArg some (step_mapChannel (carries 0))
  | run limit => exact runFor?_mapChannel carries fuel limit

theorem calls?_mapChannel (fuel : ℕ) (calls : List Call) :
    (m.mapChannel f).calls? fuel calls =
      (m.calls? fuel calls).map (Prod.map id (mapChannel f)) := by
  induction calls generalizing m with
  | nil => rfl
  | cons call calls ih =>
      rw [calls?, calls?, call?_mapChannel carries]
      cases called : m.call? fuel call with
      | none => rfl
      | some result =>
          obtain ⟨answer, next⟩ := result
          obtain ⟨first, rfl⟩ := exists_iterate_of_call? called
          have rest := ih (m := stepped^[first] m) fun k => by
            rw [← Function.iterate_add_apply]
            exact carries (k + first)
          simp only [Option.map_some, Option.bind_some, Prod.map_apply, id_eq, rest,
            Option.map_map]
          rfl

end

end Machine

end UniversalMachine
