import UniversalMachine.Proofs.Memory.Session

/-!
What a host sees of a memory: the answers to its calls. A trace has the calls of a sequence,
each with its answer; a memory is reachable if a sequence of calls leaves it, granted or
refused, to a memory that started from some program. Nothing bounds the number of slots.
-/

namespace UniversalMachine

/-- The id that an answer hands out. -/
def Answer.id? : Answer → Option ℕ
  | .id i => some i
  | .done | .word _ | .segment _ | .size _ | .mapped _ | .count _ | .refused _ => none

namespace Memory

/-- The memory that a sequence of calls leaves. -/
def after (m : Memory) (calls : List Call) : Memory :=
  (session serve m calls).2

/-- The calls of a sequence, each with its answer. -/
def trace (m : Memory) (calls : List Call) : List (Call × Answer) :=
  calls.zip (session serve m calls).1

@[simp]
theorem after_cons (m : Memory) (call : Call) (calls : List Call) :
    m.after (call :: calls) = (m.serve call).2.after calls := rfl

@[simp]
theorem trace_nil (m : Memory) : m.trace [] = [] := rfl

@[simp]
theorem trace_cons (m : Memory) (call : Call) (calls : List Call) :
    m.trace (call :: calls) = (call, (m.serve call).1) :: (m.serve call).2.trace calls := rfl

def Reachable (m : Memory) : Prop :=
  ∃ program calls, (ofProgram program).after calls = m

theorem WellFormed.serve {m : Memory} (wf : m.WellFormed) (call : Call) :
    (m.serve call).2.WellFormed :=
  wf.change (change_serve m call)

theorem WellFormed.after {m : Memory} (wf : m.WellFormed) (calls : List Call) :
    (m.after calls).WellFormed := by
  induction calls generalizing m with
  | nil => exact wf
  | cons call calls ih => exact ih (wf.serve call)

theorem Reachable.wellFormed {m : Memory} (reached : m.Reachable) : m.WellFormed := by
  obtain ⟨program, calls, rfl⟩ := reached
  exact (wellFormed_ofProgram program).after calls

end Memory

/-! ### Calls that leave a segment alone -/

/-- A call that neither writes to a segment nor unmaps it, and does not put another program in
its place. -/
def Call.Spares (id : Word) : Call → Prop
  | .write other _ _ | .release other => other ≠ id
  | .loadProgram source => id = 0 → source = 0
  | .allocate _ | .read _ _ | .segment _ | .segmentSize _ | .isMapped _ | .mappedCount => True

namespace Memory

section
variable {m : Memory} (wf : m.WellFormed) {id : Word} {words : Array Word}
  (mapped : m.segment? id = some words)
include wf mapped

theorem segment?_serve_of_spares {call : Call} (spares : call.Spares id) :
    (m.serve call).2.segment? id = some words := by
  cases call with
  | segment _ | segmentSize _ | isMapped _ | mappedCount => exact mapped
  | read other offset => rwa [serve_read_snd]
  | allocate size =>
      change (m.allocate size).2.contents? id.toNat = some words
      rwa [contents?_allocate wf, if_neg (ne_nextSlot wf mapped)]
  | write other offset word =>
      have apart : id.toNat ≠ other.toNat := fun same => spares (UInt32.toNat_inj.mp same).symm
      simp only [serve, serve_change_snd]
      obtain ⟨_, found, within, -⟩ | ⟨-, refused⟩ := m.write_cases other offset word
      · rwa [segment?, contents?_write word found within, if_neg apart]
      · rwa [refused]
  | release other =>
      have apart : id.toNat ≠ other.toNat := fun same => spares (UInt32.toNat_inj.mp same).symm
      simp only [serve, serve_change_snd]
      obtain ⟨_, nonzero, found, -⟩ | ⟨-, refused⟩ := m.release_cases other
      · rwa [segment?, contents?_release nonzero found, if_neg apart]
      · rwa [refused]
  | loadProgram source =>
      simp only [serve, serve_change_snd]
      by_cases zero : source = 0
      · rwa [zero, loadProgram_zero]
      · have apart : id.toNat ≠ 0 := fun same => zero (spares (Word.toNat_eq_zero_iff.mp same))
        obtain ⟨_, found, -⟩ | ⟨-, refused⟩ := m.loadProgram_cases zero
        · obtain ⟨program, first⟩ := wf.program_mapped
          rwa [segment?, contents?_loadProgram zero found first, if_neg apart]
        · rwa [refused]

theorem segment?_after_of_spares {calls : List Call} (spares : ∀ call ∈ calls, call.Spares id) :
    (m.after calls).segment? id = some words := by
  induction calls generalizing m with
  | nil => exact mapped
  | cons call calls ih =>
      have kept := segment?_serve_of_spares wf mapped (spares call List.mem_cons_self)
      exact ih (wf.serve call) kept fun call' mem => spares call' (List.mem_cons_of_mem _ mem)

end

end Memory

end UniversalMachine
