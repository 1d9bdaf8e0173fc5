import UniversalMachine.Machine.Step

/-!
Runs: steps until the machine halts or faults, with or without a limit.
-/

namespace UniversalMachine

namespace Machine

variable {χ : Type} [Channel χ]

/-- Runs until the machine stops, for at most `limit` steps. A machine that reaches the
limit answers with its status, and so does any machine when the limit is zero. -/
def run : Nat → Machine χ → Except Fault Status × Machine χ
  | 0, m => (.ok m.status, m)
  | limit + 1, m =>
      match m.step with
      | (.ok .running, m) => run limit m
      | stopped => stopped

/-- Runs until the machine stops. There is no answer if it needs more than `fuel`
steps to do so. -/
def runToEnd? : Nat → Machine χ → Option (Except Fault Status × Machine χ)
  | 0, _ => none
  | fuel + 1, m =>
      match m.step with
      | (.ok .running, m) => runToEnd? fuel m
      | stopped => some stopped

def runFor? (fuel : Nat) (limit : Option Nat) (m : Machine χ) :
    Option (Except Fault Status × Machine χ) :=
  match limit with
  | some limit => some (m.run limit)
  | none => m.runToEnd? fuel

/-- One step of a run: the answer if the run has ended, and what is left of its limit. -/
def turn (limit : Option Nat) (m : Machine χ) :
    Option (Except Fault Status) × Option Nat × Machine χ :=
  if limit = some 0 then (some (.ok m.status), limit, m)
  else
    match m.step with
    | (.ok .running, m) => (none, limit.map (· - 1), m)
    | (answer, m) => (some answer, limit, m)

theorem runFor?_succ (fuel : Nat) (limit : Option Nat) (m : Machine χ) :
    m.runFor? (fuel + 1) limit =
      match m.turn limit with
      | (some answer, _, m) => some (answer, m)
      | (none, limit, m) => m.runFor? fuel limit := by
  match limit with
  | some 0 => rfl
  | some (limit + 1) =>
      simp only [turn, runFor?, run, Option.some.injEq, Nat.add_one_ne_zero, if_false]
      obtain ⟨_ | _ | _ | _, m⟩ := m.step <;> rfl
  | none =>
      simp only [turn, runFor?, runToEnd?, reduceCtorEq, if_false]
      obtain ⟨_ | _ | _ | _, m⟩ := m.step <;> rfl

end Machine

end UniversalMachine
