import Mathlib
import UniversalMachine.Machine.Run

/-!
The machines that a host can reach from the start of a program: by steps and runs in any
order, and by whatever it does to the channel between them. A property that the start has
and that steps and changes of the channel keep is one of every reachable machine; runs need
no case of their own, because a run is a sequence of steps.
-/

namespace UniversalMachine.Machine

variable {χ : Type} [Channel χ]

inductive Reachable (program : Array Word) : Machine χ → Prop
  | start (channel : χ) : Reachable program (.start program channel)
  | step {m : Machine χ} (reached : Reachable program m) : Reachable program m.step.2
  | run {m : Machine χ} (reached : Reachable program m) (limit : Nat) :
      Reachable program (m.run limit).2
  | runToEnd {m m' : Machine χ} {fuel : Nat} {answer : Except Fault Status}
      (reached : Reachable program m) (ended : m.runToEnd? fuel = some (answer, m')) :
      Reachable program m'
  | channel {m : Machine χ} (reached : Reachable program m) (channel : χ) :
      Reachable program { m with channel }

theorem step_of_halted {m : Machine χ} (halted : m.status = .halted) :
    m.step = (.ok .halted, m) := by
  simp only [Machine.step, halted]

theorem step_of_faulted {m : Machine χ} {fault : Fault} (faulted : m.status = .faulted fault) :
    m.step = (.error fault, m) := by
  simp only [Machine.step, faulted]

/-- The machine that a step leaves, whatever the step answers. -/
def stepped (m : Machine χ) : Machine χ :=
  m.step.2

theorem reachable_iterate (program : Array Word) (channel : χ) (n : ℕ) :
    Reachable program (stepped^[n] (start program channel)) := by
  induction n with
  | zero => exact .start channel
  | succ n ih =>
      rw [Function.iterate_succ_apply']
      exact ih.step

/-! ### Runs are sequences of steps -/

section
variable {P : Machine χ → Prop} (kept : ∀ m, P m → P m.step.2)
include kept

theorem run_preserves (limit : Nat) {m : Machine χ} (holds : P m) : P (m.run limit).2 := by
  induction limit generalizing m with
  | zero => exact holds
  | succ limit ih =>
      have stepped := kept m holds
      rw [Machine.run]
      split
      next m' running =>
        rw [running] at stepped
        exact ih stepped
      next => exact stepped

theorem runToEnd_preserves {fuel : Nat} {m m' : Machine χ} {answer : Except Fault Status}
    (ended : m.runToEnd? fuel = some (answer, m')) (holds : P m) : P m' := by
  induction fuel generalizing m with
  | zero => cases ended
  | succ fuel ih =>
      have stepped := kept m holds
      rw [runToEnd?] at ended
      split at ended
      next m'' running =>
        rw [running] at stepped
        exact ih ended stepped
      next =>
        rw [Option.some.inj ended] at stepped
        exact stepped

/-- What holds at the start and is kept by steps and by changes of the channel holds of
every reachable machine. -/
theorem Reachable.invariant {program : Array Word} {m : Machine χ}
    (reached : Reachable program m) (start : ∀ channel, P (.start program channel))
    (host : ∀ m channel, P m → P { m with channel }) : P m := by
  induction reached with
  | start channel => exact start channel
  | step _ holds => exact kept _ holds
  | run _ limit holds => exact run_preserves kept limit holds
  | runToEnd _ ended holds => exact runToEnd_preserves kept ended holds
  | channel _ channel holds => exact host _ channel holds

end

end UniversalMachine.Machine
