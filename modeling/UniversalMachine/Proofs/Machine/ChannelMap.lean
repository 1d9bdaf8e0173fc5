import Mathlib
import UniversalMachine.Proofs.Machine.StepLimit

/-!
Machines on different channels. All that a machine learns about its channel are the answers to
its requests. So let a map between channels carry over the requests that a machine makes: the
answers are the same, and the channels that are left correspond. Then it carries over the steps
of the machine, and with them its runs. The answer to a flush matters only to a machine that is
to halt, because a refusal is ignored when a fault is being recorded.
-/

namespace UniversalMachine.Machine

variable {χ ω : Type}

/-- The machine with the image of its channel for a channel. -/
def mapChannel (f : χ → ω) (m : Machine χ) : Machine ω :=
  { m with channel := f m.channel }

section
variable (f : χ → ω) (m : Machine χ)

@[simp] theorem registers_mapChannel : (m.mapChannel f).registers = m.registers := rfl

@[simp] theorem memory_mapChannel : (m.mapChannel f).memory = m.memory := rfl

@[simp] theorem pc_mapChannel : (m.mapChannel f).pc = m.pc := rfl

@[simp] theorem status_mapChannel : (m.mapChannel f).status = m.status := rfl

@[simp] theorem channel_mapChannel : (m.mapChannel f).channel = f m.channel := rfl

@[simp] theorem next?_mapChannel : (m.mapChannel f).next? = m.next? := rfl

theorem advance_mapChannel : (m.mapChannel f).advance = m.advance.mapChannel f := rfl

end

variable [Channel χ] [Channel ω]

/-- A map of channels carries over the requests that the next step of a machine makes. -/
structure Carries (f : χ → ω) (m : Machine χ) : Prop where
  write : ∀ o, m.next? = some (.standard .output o) → m.registers.get o.c < 256 →
    Channel.write (f m.channel) (m.registers.get o.c).toUInt8 =
      Prod.map id f (Channel.write m.channel (m.registers.get o.c).toUInt8)
  read : m.nextOperator? = some .input →
    Channel.read (f m.channel) = Prod.map id f (Channel.read m.channel)
  halt : m.next? = some .halt → (Channel.flush (f m.channel)).1 = (Channel.flush m.channel).1
  flush : ∀ c, Relation.ReflTransGen Idle m.channel c →
    (Channel.flush (f c)).2 = f (Channel.flush c).2

section
variable {f : χ → ω} {m : Machine χ}

theorem perform_mapChannel {op : Operator} {o : Operands}
    (write : op = .output → m.registers.get o.c < 256 →
      Channel.write (f m.channel) (m.registers.get o.c).toUInt8 =
        Prod.map id f (Channel.write m.channel (m.registers.get o.c).toUInt8))
    (read : op = .input → Channel.read (f m.channel) = Prod.map id f (Channel.read m.channel)) :
    (m.mapChannel f).perform op o = Prod.map id (mapChannel f) (m.perform op o) := by
  cases op with
  | add | multiply | nand | segmentStore | mapSegment | unmapSegment => rfl
  | conditionalMove =>
      by_cases zero : m.registers.get o.c = 0
      · have zero' : (m.mapChannel f).registers.get o.c = 0 := zero
        simp only [perform, if_pos zero, if_pos zero']
        rfl
      · have nonzero : ¬ (m.mapChannel f).registers.get o.c = 0 := zero
        simp only [perform, if_neg zero, if_neg nonzero]
        rfl
  | segmentLoad =>
      simp only [perform, registers_mapChannel, memory_mapChannel]
      split <;> rfl
  | divide =>
      by_cases zero : m.registers.get o.c = 0
      · have zero' : (m.mapChannel f).registers.get o.c = 0 := zero
        simp only [perform, if_pos zero, if_pos zero']
        rfl
      · have nonzero : ¬ (m.mapChannel f).registers.get o.c = 0 := zero
        simp only [perform, if_neg zero, if_neg nonzero]
        rfl
  | output =>
      by_cases small : m.registers.get o.c < 256
      · have small' : (m.mapChannel f).registers.get o.c < 256 := small
        simp only [perform, if_pos small, if_pos small']
        rw [channel_mapChannel, registers_mapChannel, write rfl small]
        generalize Channel.write m.channel _ = answered
        obtain ⟨reason | _, channel⟩ := answered <;> rfl
      · have large : ¬ (m.mapChannel f).registers.get o.c < 256 := small
        simp only [perform, if_neg small, if_neg large]
        rfl
  | input =>
      simp only [perform, channel_mapChannel]
      rw [read rfl]
      generalize Channel.read m.channel = answered
      obtain ⟨answer | answer, channel⟩ := answered <;> rfl
  | loadProgram =>
      have loaded : (m.mapChannel f).withMemory (·.loadProgram (m.registers.get o.b)) =
          Prod.map id (mapChannel f) (m.withMemory (·.loadProgram (m.registers.get o.b))) := rfl
      simp only [perform, registers_mapChannel, loaded]
      generalize m.withMemory _ = answered
      obtain ⟨answer | answer, m'⟩ := answered <;> rfl

theorem stop_mapChannel (flush : (Channel.flush (f m.channel)).2 = f (Channel.flush m.channel).2)
    (fault : Fault) : (m.mapChannel f).stop fault = Prod.map id (mapChannel f) (m.stop fault) := by
  simp only [stop, channel_mapChannel, flush]
  rfl

theorem halt_mapChannel (answer : (Channel.flush (f m.channel)).1 = (Channel.flush m.channel).1)
    (flush : ∀ c, Relation.ReflTransGen Idle m.channel c →
      (Channel.flush (f c)).2 = f (Channel.flush c).2) :
    (m.mapChannel f).halt = Prod.map id (mapChannel f) m.halt := by
  have first : Channel.flush (f m.channel) = Prod.map id f (Channel.flush m.channel) :=
    Prod.ext answer (flush m.channel .refl)
  have second := flush _ (.single (.flush m.channel))
  simp only [halt, channel_mapChannel, first]
  generalize Channel.flush m.channel = answered at second
  obtain ⟨reason | _, channel⟩ := answered
  · exact stop_mapChannel (m := { m with channel }) second _
  · rfl

theorem execute_mapChannel {word : Word} (carries : Carries f m) (running : m.status = .running)
    (fetched : m.memory.read 0 m.pc = .ok word) :
    (m.advance.mapChannel f).execute word =
      Prod.map id (mapChannel f) (m.advance.execute word) := by
  have next := next?_of_fetched running fetched
  rw [execute, execute]
  split
  next op o decoded =>
    rw [decoded] at next
    refine perform_mapChannel ?_ ?_
    · rintro rfl
      exact carries.write o next
    · rintro rfl
      exact carries.read (nextOperator?_eq_some_iff.mpr ⟨o, next⟩)
  all_goals rfl

theorem step_mapChannel (carries : Carries f m) :
    (m.mapChannel f).step = Prod.map id (mapChannel f) m.step := by
  cases status : m.status with
  | halted | faulted => simp only [step, status_mapChannel, status, Prod.map_apply, id_eq]
  | running =>
      simp only [step, status_mapChannel, memory_mapChannel, pc_mapChannel, status]
      split
      next => exact stop_mapChannel (carries.flush m.channel .refl) _
      next word fetched =>
        have executed := execute_mapChannel carries status fetched
        rw [advance_mapChannel, executed]
        cases answered : m.advance.execute word with
        | mk answer m' =>
            cases answer with
            | error fault =>
                obtain ⟨-, channel, idle, rfl⟩ := execute_eq_error answered
                exact stop_mapChannel (carries.flush channel idle.to_reflTransGen) fault
            | ok flow =>
                cases flow with
                | next => rfl
                | halt =>
                    obtain ⟨decoded, rfl⟩ := execute_eq_halt answered
                    refine halt_mapChannel (carries.halt ?_) carries.flush
                    rw [next?_of_fetched status fetched, decoded]

theorem stepped_mapChannel (carries : Carries f m) :
    (m.mapChannel f).stepped = m.stepped.mapChannel f := by
  rw [stepped, step_mapChannel carries]
  rfl

theorem iterate_mapChannel {n : ℕ} (carries : ∀ k < n, Carries f (stepped^[k] m)) :
    stepped^[n] (m.mapChannel f) = (stepped^[n] m).mapChannel f := by
  induction n with
  | zero => rfl
  | succ n ih =>
      rw [Function.iterate_succ_apply', Function.iterate_succ_apply',
        ih fun k lt => carries k (Nat.lt_succ_of_lt lt),
        stepped_mapChannel (carries n (Nat.lt_succ_self n))]

/-! ### Runs -/

variable (carries : ∀ k, Carries f (stepped^[k] m))
include carries

theorem run_mapChannel (limit : ℕ) :
    (m.mapChannel f).run limit = Prod.map id (mapChannel f) (m.run limit) := by
  cases limit with
  | zero => rfl
  | succ limit =>
      rw [run_eq (Nat.succ_ne_zero limit), run_eq (Nat.succ_ne_zero limit),
        iterate_mapChannel fun k _ => carries k]
      rfl

theorem runToEnd?_mapChannel (fuel : ℕ) :
    (m.mapChannel f).runToEnd? fuel = (m.runToEnd? fuel).map (Prod.map id (mapChannel f)) := by
  rw [runToEnd?_eq, runToEnd?_eq, run_mapChannel carries, Prod.map_fst, id_eq]
  split <;> rfl

theorem runFor?_mapChannel (fuel : ℕ) (limit : Option ℕ) :
    (m.mapChannel f).runFor? fuel limit =
      (m.runFor? fuel limit).map (Prod.map id (mapChannel f)) := by
  cases limit with
  | some limit => exact congrArg some (run_mapChannel carries limit)
  | none => exact runToEnd?_mapChannel carries fuel

end

end UniversalMachine.Machine
