import Mathlib
import UniversalMachine.Channel.Buffer
import UniversalMachine.Proofs.Machine.Calls

/-!
When a host uses the buffer of a machine. Bytes that are pushed late might as well have been
there from the start, unless an input instruction has missed them. When the host takes the output
makes no difference at all: every call is answered as if nothing had been taken, and what was
taken is a first part of the output that would be there.
-/

namespace UniversalMachine

/-- Puts bytes that were taken back before the output. -/
def Buffer.untake (b : Buffer) (bytes : Array UInt8) : Buffer :=
  { b with output := bytes ++ b.output }

namespace Machine

/-- The next step is to read a byte, and there is none. -/
def MissesInput (m : Machine Buffer) : Prop :=
  m.nextOperator? = some .input ∧ m.channel.input = []

instance (m : Machine Buffer) : Decidable m.MissesInput :=
  inferInstanceAs (Decidable (_ ∧ _))

theorem carries_push {m : Machine Buffer} (bytes : List UInt8) (finds : ¬ m.MissesInput) :
    Carries (·.push bytes) m where
  write _ _ _ := rfl
  read input := by
    cases queue : m.channel.input with
    | nil => exact absurd ⟨input, queue⟩ finds
    | cons byte rest =>
        have queue' : (m.channel.push bytes).input = byte :: (rest ++ bytes) :=
          congrArg (· ++ bytes) queue
        rw [Buffer.read_of_queued queue, Buffer.read_of_queued queue']
        rfl
  halt _ := rfl
  flush _ _ := rfl

theorem carries_untake (m : Machine Buffer) (bytes : Array UInt8) :
    Carries (·.untake bytes) m where
  write o _ _ := by
    simp only [Channel.write, Buffer.write, Buffer.untake, Array.push_append]
    rfl
  read _ := by
    cases queue : m.channel.input with
    | nil =>
        have queue' : (m.channel.untake bytes).input = [] := queue
        rw [Buffer.read_of_empty queue, Buffer.read_of_empty queue']
        rfl
    | cons byte rest =>
        have queue' : (m.channel.untake bytes).input = byte :: rest := queue
        rw [Buffer.read_of_queued queue, Buffer.read_of_queued queue']
        rfl
  halt _ := rfl
  flush _ _ := rfl

theorem iterate_push {program : Array Word} {input : List UInt8} {n : ℕ}
    (finds : ∀ k < n, ¬ (stepped^[k] (start program ({ input } : Buffer))).MissesInput)
    (bytes : List UInt8) :
    (stepped^[n] (start program ({ input } : Buffer))).mapChannel (·.push bytes) =
      stepped^[n] (start program { input := input ++ bytes }) :=
  (iterate_mapChannel fun k lt => carries_push bytes (finds k lt)).symm

/-! ### Hosts -/

/-- What a host does to a machine with a buffer. -/
inductive Act where
  | call (call : Call)
  | push (bytes : List UInt8)
  | take
  deriving DecidableEq

/-- A machine with a buffer, and what its host has got from it. -/
structure Hosted where
  machine : Machine Buffer
  answers : List (Except Fault Status) := []
  taken : Array UInt8 := #[]

namespace Hosted

def take (h : Hosted) : Hosted :=
  { h with
    machine := h.machine.mapChannel (·.take.2), taken := h.taken ++ h.machine.channel.take.1 }

/-- What an act leads to if fuel is enough for it. -/
def act? (fuel : ℕ) (h : Hosted) : Act → Option Hosted
  | .call call =>
      (h.machine.call? fuel call).map fun (answer, machine) =>
        { h with machine, answers := h.answers ++ [answer] }
  | .push bytes => some { h with machine := h.machine.mapChannel (·.push bytes) }
  | .take => some h.take

/-- What a sequence of acts leads to, each of which has the fuel. -/
def acts? (fuel : ℕ) (acts : List Act) (h : Hosted) : Option Hosted :=
  acts.foldlM (act? fuel) h

/-- The same if the host had not taken anything. -/
def untake (h : Hosted) : Hosted :=
  { h with machine := h.machine.mapChannel (·.untake h.taken), taken := #[] }

theorem untake_of_taken_eq {h : Hosted} (nothing : h.taken = #[]) : h.untake = h := by
  obtain ⟨machine, answers, taken⟩ := h
  subst nothing
  simp only [untake, mapChannel, Buffer.untake, Array.empty_append]

theorem untake_take (h : Hosted) : h.take.untake = h.untake := by
  simp only [untake, take, mapChannel, Buffer.take, Buffer.untake, Array.append_empty]

theorem act?_untake {fuel : ℕ} {act : Act} (other : act ≠ .take) (h : Hosted) :
    h.untake.act? fuel act = (h.act? fuel act).map untake := by
  cases act with
  | call call =>
      have called := call?_mapChannel (fun k => carries_untake (stepped^[k] h.machine) h.taken)
        fuel call
      simp only [act?, untake, called, Option.map_map]
      rfl
  | push bytes => rfl
  | take => exact absurd rfl other

theorem acts?_untake (fuel : ℕ) (acts : List Act) (h : Hosted) :
    h.untake.acts? fuel (acts.filter (· ≠ .take)) = (h.acts? fuel acts).map untake := by
  induction acts generalizing h with
  | nil => rfl
  | cons act acts ih =>
      by_cases taking : act = .take
      · subst taking
        rw [List.filter_cons_of_neg (by decide), ← untake_take]
        exact ih h.take
      · have kept : (act :: acts).filter (· ≠ .take) = act :: acts.filter (· ≠ .take) :=
          List.filter_cons_of_pos (decide_eq_true taking)
        rw [kept, acts?, acts?, List.foldlM_cons, List.foldlM_cons, act?_untake taking]
        cases h.act? fuel act with
        | none => rfl
        | some next => exact ih next

end Hosted

/-- If no input instruction among the first steps misses a byte, then bytes that are pushed after
these steps might as well have been there from the start: the machine is the same, and so it
stays. Whatever a host calls and pushes, and whenever it takes the output: without the takes
there are the same answers and, apart from its output, the same machine, whose output then begins
with what was taken. -/
theorem buffer_timing_unnoticed :
    (∀ (program : Array Word) (input later : List UInt8) (n : ℕ),
      let m : Machine Buffer := stepped^[n] (start program { input })
      let early : Machine Buffer := start program { input := input ++ later }
      (∀ k < n, ¬ (stepped^[k] (start program ({ input } : Buffer))).MissesInput) →
        m.mapChannel (·.push later) = stepped^[n] early ∧
          ∀ more, stepped^[more] (m.mapChannel (·.push later)) = stepped^[n + more] early) ∧
    ∀ (fuel : ℕ) (acts : List Act) (m : Machine Buffer),
      Hosted.acts? fuel (acts.filter (· ≠ .take)) { machine := m } =
        (Hosted.acts? fuel acts { machine := m }).map Hosted.untake := by
  constructor
  · intro program input later n m early finds
    have same : m.mapChannel (·.push later) = stepped^[n] early := iterate_push finds later
    refine ⟨same, fun more => ?_⟩
    rw [same, Nat.add_comm, Function.iterate_add_apply]
  · intro fuel acts m
    rw [← Hosted.acts?_untake, Hosted.untake_of_taken_eq rfl]

/-- Two bytes are echoed. The second one is pushed only after the first has been echoed and
taken. -/
theorem second_byte_echoed_when_pushed :
    let program : Array Word := #[0xB0000001, 0xA0000001, 0xB0000001, 0xA0000001, 0x70000000]
    let m : Machine Buffer := start program { input := [65] }
    let early : Machine Buffer := start program { input := [65, 66] }
    (stepped^[2] m).mapChannel (·.push [66]) = stepped^[2] early ∧
      (stepped^[2 + 3] early).channel.output = #[65, 66] ∧
      ∃ h, Hosted.acts? 9 [.call (.run (some 2)), .take, .push [66], .call (.run none)]
          { machine := m } = some h ∧
        h.answers = [.ok .running, .ok .halted] ∧ h.taken = #[65] ∧
        h.machine.channel.output = #[66] ∧
        Hosted.acts? 9 [.call (.run (some 2)), .push [66], .call (.run none)] { machine := m } =
          some h.untake := by
  intro program m early
  obtain ⟨late, takes⟩ := buffer_timing_unnoticed
  refine ⟨(late program [65] [66] 2 (by decide)).1, by decide, ?_⟩
  have seen : (Hosted.acts? 9 [.call (.run (some 2)), .take, .push [66], .call (.run none)]
      { machine := m }).map (fun h => (h.answers, h.taken, h.machine.channel.output)) =
        some ([.ok .running, .ok .halted], #[65], #[66]) := by decide
  obtain ⟨h, done, same⟩ := Option.map_eq_some_iff.mp seen
  simp only [Prod.mk.injEq] at same
  have without := takes 9 [.call (.run (some 2)), .take, .push [66], .call (.run none)] m
  rw [done] at without
  exact ⟨h, done, same.1, same.2.1, same.2.2, without⟩

end Machine

end UniversalMachine
