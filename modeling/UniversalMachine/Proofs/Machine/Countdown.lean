import UniversalMachine.Proofs.Instruction.Codec
import UniversalMachine.Proofs.Machine.StepLimit

/-!
A program that counts down to zero. Each pass of its loop adds the greatest word to the count,
puts the offset of the end into a register, replaces it by the offset of the loop unless the
count is zero, and goes there by making segment 0 the program again. The loop tests the count
after it has counted; so a count that begins at zero wraps around, and the loop is passed as
often as there are words.
-/

namespace UniversalMachine

/-- There are registers, so that numbers can stand for them. -/
local instance registerCount_neZero : NeZero registerCount :=
  ⟨by decide⟩

/-- The words of a sequence of instructions. -/
def assemble (is : List Instruction) : Array Word :=
  (is.map Instruction.encode).toArray

/-- Counts register 1 down from a number to zero. -/
def countdown (n : Word) : List Instruction :=
  [.loadImmediate 1 n,
   .standard .nand ⟨2, 0, 0⟩,
   .loadImmediate 3 4,
   .loadImmediate 4 8,
   .standard .add ⟨1, 1, 2⟩,
   .standard .conditionalMove ⟨5, 4, 2⟩,
   .standard .conditionalMove ⟨5, 3, 1⟩,
   .standard .loadProgram ⟨0, 0, 5⟩,
   .halt]

namespace Machine

variable {χ : Type}

/-! ### Steps of an assembled program -/

theorem next?_of_assembled {m : Machine χ} {is : List Instruction} {i : Instruction}
    (running : m.status = .running) (loaded : m.memory.contents? 0 = some (assemble is))
    (entry : is[m.pc.toNat]? = some i) (encodable : ¬ i.Unencodable) : m.next? = some i := by
  have word : (assemble is)[m.pc.toNat]? = some i.encode := by
    rw [assemble, List.getElem?_toArray, List.getElem?_map, entry, Option.map_some]
  have fetched : m.memory.read 0 m.pc = .ok i.encode := by
    rw [Memory.read, Memory.segment?, UInt32.toNat_zero, loaded, Option.bind_some, word]
  rw [next?_of_fetched running fetched, (Instruction.decode_encode_eq_iff i).mpr encodable]

section
variable [Channel χ] {m m' : Machine χ}

theorem stepped_of_standard {op : Operator} {o : Operands}
    (next : m.next? = some (.standard op o))
    (performed : m.advance.perform op o = (.ok .next, m')) : m.stepped = m' := by
  obtain ⟨running, word, fetched, decoded⟩ := fetched_of_next? next
  have executed : m.advance.execute word = (.ok .next, m') := by
    simp only [execute, decoded, performed]
  rw [stepped, step_of_next running fetched executed]

theorem stepped_of_loadImmediate {a : Register} {value : Word}
    (next : m.next? = some (.loadImmediate a value)) : m.stepped = m.advance.assign a value := by
  obtain ⟨running, word, fetched, decoded⟩ := fetched_of_next? next
  have executed : m.advance.execute word = (.ok .next, m.advance.assign a value) := by
    simp only [execute, decoded]
  rw [stepped, step_of_next running fetched executed]

theorem stepped_of_halt (next : m.next? = some .halt) : m.stepped = m.advance.halt.2 := by
  obtain ⟨running, word, fetched, decoded⟩ := fetched_of_next? next
  simp only [stepped, step, running, fetched, execute, decoded]

end

/-! ### Counting down -/

/-- A machine in the course of counting down from `n`. -/
def counting (n : Word) (channel : χ) (registers : Registers) (pc : Word) (steps : ℕ) :
    Machine χ where
  registers
  memory := .ofProgram (assemble (countdown n))
  pc
  steps
  channel

/-- The registers in the loop: `count` is what is left to count, and `target` the offset in
register 5. -/
def loopRegisters (count target : Word) : Registers :=
  #v[0, count, 0xFFFFFFFF, 4, 8, target, 0, 0]

theorem next?_counting {n : Word} {channel : χ} {registers : Registers} {pc : Word} {steps : ℕ}
    {i : Instruction} (entry : (countdown n)[pc.toNat]? = some i) (encodable : ¬ i.Unencodable) :
    (counting n channel registers pc steps).next? = some i :=
  next?_of_assembled rfl rfl entry encodable

variable [Channel χ]

section
variable (n : Word) (channel : χ) (steps : ℕ)

theorem stepped_counting {registers registers' : Registers} {pc pc' : Word} {op : Operator}
    {o : Operands} (entry : (countdown n)[pc.toNat]? = some (.standard op o))
    (performed : (counting n channel registers (pc + 1) (steps + 1)).perform op o =
      (.ok .next, counting n channel registers' pc' (steps + 1))) :
    (counting n channel registers pc steps).stepped =
      counting n channel registers' pc' (steps + 1) :=
  stepped_of_standard (next?_counting entry not_false) performed

theorem stepped_counting_loadImmediate {registers : Registers} {pc : Word} (a : Register)
    (value : Word) (entry : (countdown n)[pc.toNat]? = some (.loadImmediate a value))
    (small : value.toNat < 2 ^ 25) :
    (counting n channel registers pc steps).stepped =
      counting n channel (registers.set a.val value a.isLt) (pc + 1) (steps + 1) :=
  stepped_of_loadImmediate (next?_counting entry (Nat.not_le.mpr small))

/-- Four steps set up the loop. -/
theorem iterate_start (small : n.toNat < 2 ^ 25) :
    stepped^[4] (start (assemble (countdown n)) channel) =
      counting n channel (loopRegisters n 0) 4 4 := by
  have initial : start (assemble (countdown n)) channel = counting n channel .zero 0 0 := rfl
  have first : (counting n channel .zero 0 0).stepped =
      counting n channel #v[0, n, 0, 0, 0, 0, 0, 0] 1 1 :=
    stepped_counting_loadImmediate n channel 0 1 n rfl small
  have second : (counting n channel #v[0, n, 0, 0, 0, 0, 0, 0] 1 1).stepped =
      counting n channel #v[0, n, ~~~(0 &&& 0), 0, 0, 0, 0, 0] 2 2 :=
    stepped_counting n channel 1 rfl rfl
  have ones : ~~~((0 : Word) &&& 0) = 0xFFFFFFFF := by decide
  have third : (counting n channel #v[0, n, 0xFFFFFFFF, 0, 0, 0, 0, 0] 2 2).stepped =
      counting n channel #v[0, n, 0xFFFFFFFF, 4, 0, 0, 0, 0] 3 3 :=
    stepped_counting_loadImmediate n channel 2 3 4 rfl (by decide)
  have fourth : (counting n channel #v[0, n, 0xFFFFFFFF, 4, 0, 0, 0, 0] 3 3).stepped =
      counting n channel (loopRegisters n 0) 4 4 :=
    stepped_counting_loadImmediate n channel 3 4 8 rfl (by decide)
  have four (m : Machine χ) : stepped^[4] m = m.stepped.stepped.stepped.stepped := rfl
  rw [four, initial, first, second, ones, third, fourth]

/-! ### One pass -/

variable (count target : Word)

/-- Adding the greatest word takes one away. -/
theorem stepped_counting_add : (counting n channel (loopRegisters count target) 4 steps).stepped =
    counting n channel (loopRegisters (count - 1) target) 5 (steps + 1) := by
  have less : count + 0xFFFFFFFF = count - 1 := (UInt32.sub_eq_add_neg count 1).symm
  rw [← less]
  exact stepped_counting n channel steps rfl rfl

theorem stepped_counting_end : (counting n channel (loopRegisters count target) 5 steps).stepped =
    counting n channel (loopRegisters count 8) 6 (steps + 1) := by
  have nonzero : (0xFFFFFFFF : Word) ≠ 0 := by decide
  exact stepped_counting n channel steps rfl (congrArg (Prod.mk _) (if_neg nonzero))

theorem stepped_counting_again :
    (counting n channel (loopRegisters count target) 6 steps).stepped =
      counting n channel (loopRegisters count (if count = 0 then target else 4)) 7
        (steps + 1) := by
  refine stepped_counting n channel steps rfl (congrArg (Prod.mk _) ?_)
  change (if count = 0 then _ else _) = _
  split <;> rfl

theorem stepped_counting_jump :
    (counting n channel (loopRegisters count target) 7 steps).stepped =
      counting n channel (loopRegisters count target) target (steps + 1) :=
  stepped_counting n channel steps rfl rfl

/-- A pass goes on to the end if it has counted down to zero, and else to the next one. -/
theorem iterate_pass {next : Word} (chosen : next = if count - 1 = 0 then 8 else 4) :
    stepped^[4] (counting n channel (loopRegisters count target) 4 steps) =
      counting n channel (loopRegisters (count - 1) next) next (steps + 4) := by
  have four (m : Machine χ) : stepped^[4] m = m.stepped.stepped.stepped.stepped := rfl
  rw [four, stepped_counting_add, stepped_counting_end, stepped_counting_again,
    stepped_counting_jump, chosen]

/-! ### All passes -/

/-- The count is the number of passes that are left, modulo the number of words. -/
theorem iterate_passes {left : ℕ} (pos : left ≠ 0) (le : left ≤ 2 ^ 32) :
    stepped^[4 * left] (counting n channel (loopRegisters left.toUInt32 target) 4 steps) =
      counting n channel (loopRegisters 0 8) 8 (steps + 4 * left) := by
  induction left generalizing target steps with
  | zero => exact absurd rfl pos
  | succ left ih =>
      have less : (left + 1).toUInt32 - 1 = left.toUInt32 := by
        rw [← UInt32.toNat_inj]
        simp
      have pass (next : Word) (chosen : next = if left.toUInt32 = 0 then 8 else 4) :
          stepped^[4] (counting n channel (loopRegisters (left + 1).toUInt32 target) 4 steps) =
            counting n channel (loopRegisters left.toUInt32 next) next (steps + 4) := by
        rw [← less] at chosen ⊢
        exact iterate_pass n channel steps _ target chosen
      rw [Nat.mul_succ, Function.iterate_add_apply]
      by_cases last : left = 0
      · subst last
        exact pass 8 rfl
      · have more : left.toUInt32 ≠ 0 := by
          rw [Ne, ← UInt32.toNat_inj]
          simp
          omega
        rw [pass 4 (if_neg more).symm, ih (steps + 4) 4 last (by omega), Nat.add_assoc,
          Nat.add_comm 4]

end

/-- A program that counts down from a number of up to twenty-five bits halts after four steps,
four for each pass and one, with nothing in the count and nothing written or read. It goes
through as many passes as it counts, and from zero through as many as there are words. A run
with a smaller limit is cut short. -/
theorem countdown_halts_exactly {n : Word} (small : n.toNat < 2 ^ 25) (b : Buffer) :
    let passes := if n = 0 then 2 ^ 32 else n.toNat
    let total := 4 + 4 * passes + 1
    let m := start (assemble (countdown n)) b
    ∀ limit,
      (limit < total → (m.run limit).1 = .ok .running) ∧
      (total ≤ limit → m.run limit = (.ok .halted, {
        registers := #v[0, 0, 0xFFFFFFFF, 4, 8, 8, 0, 0]
        memory := .ofProgram (assemble (countdown n))
        pc := 9
        status := .halted
        steps := total
        channel := b })) := by
  intro passes total m limit
  have counted : passes ≠ 0 ∧ passes ≤ 2 ^ 32 ∧ passes.toUInt32 = n := by
    by_cases zero : n = 0
    · simp [passes, zero]
    · have pos : n.toNat ≠ 0 := mt Word.toNat_eq_zero_iff.mp zero
      simp only [passes, if_neg zero, Nat.toUInt32_eq, UInt32.ofNat_toNat]
      exact ⟨pos, n.toNat_lt.le, trivial⟩
  obtain ⟨pos, le, n_eq⟩ := counted
  have looped : stepped^[4 + 4 * passes] m =
      counting n b (loopRegisters 0 8) 8 (4 + 4 * passes) := by
    have ended := iterate_passes n b 4 0 pos le
    rw [Nat.add_comm 4, Function.iterate_add_apply, iterate_start n b small]
    rwa [n_eq, Nat.add_comm 4] at ended
  have halted : stepped^[total] m = {
        registers := #v[0, 0, 0xFFFFFFFF, 4, 8, 8, 0, 0]
        memory := .ofProgram (assemble (countdown n))
        pc := 9
        status := .halted
        steps := total
        channel := b } := by
    rw [Function.iterate_succ_apply', looped, stepped_of_halt (next?_counting rfl not_false)]
    rfl
  rw [run_eq_of_running rfl]
  constructor
  · intro cut
    have going : (stepped^[4 + 4 * passes] m).status = .running := congrArg Machine.status looped
    rw [running_of_iterate (Nat.lt_succ_iff.mp cut) going]
    rfl
  · intro enough
    have stopped : (stepped^[total] m).status ≠ .running := by
      rw [halted]
      exact Status.noConfusion
    rw [iterate_eq_of_stopped enough stopped, halted]
    rfl

/-- A count that begins at zero goes through every word. -/
theorem countdown_wraps_around :
    let m : Machine Buffer := start (assemble (countdown 0)) {}
    (0 : Word).toNat < 2 ^ 25 ∧ (m.run (4 * 2 ^ 32 + 4)).1 = .ok .running ∧
      (m.run (4 * 2 ^ 32 + 5)).1 = .ok .halted ∧
      (m.run (4 * 2 ^ 32 + 5)).2.steps = 4 * 2 ^ 32 + 5 := by
  intro m
  have small : (0 : Word).toNat < 2 ^ 25 := by decide
  have law := countdown_halts_exactly small {}
  have ended := (law (4 * 2 ^ 32 + 5)).2 (by decide)
  refine ⟨small, (law (4 * 2 ^ 32 + 4)).1 (by decide), congrArg Prod.fst ended, ?_⟩
  rw [ended]
  decide

end Machine

end UniversalMachine
