import UniversalMachine.Proofs.Memory.Isolation

/-!
Balanced calls leave no trace. A host that releases all that it was given, and touches nothing
else on the way, leaves a memory that no further call can tell from the one it found.

The table may have grown, and the heap that names the vacant slots may be another one. What
the segments hold is the same, and the answers depend on nothing else.
-/

namespace UniversalMachine

/-- The ids that a host holds after a call, given those it held before: the ones that were
handed out to it and that it has not released since. It is none where the host writes to a
segment that it does not hold, releases one, or replaces the program. -/
def heldAfter? (held : Finset ℕ) : Call × Answer → Option (Finset ℕ)
  | (.allocate _, answer) => answer.id?.map (insert · held)
  | (.release id, _) => if id.toNat ∈ held then some (held.erase id.toNat) else none
  | (.write id _ _, _) => if id.toNat ∈ held then some held else none
  | (.loadProgram _, _) => none
  | (.read _ _, _) | (.segment _, _) | (.segmentSize _, _) | (.isMapped _, _)
  | (.mappedCount, _) => some held

namespace Memory

/-- Calls that touch only segments which they were given, and give all of them back. -/
def Balanced (m : Memory) (calls : List Call) : Prop :=
  (m.trace calls).foldlM heldAfter? ∅ = some ∅

/-- A memory has grown out of another by the segments that a host holds. -/
structure Lends (m : Memory) (held : Finset ℕ) (m' : Memory) : Prop where
  lent : ∀ i ∈ held, m.contents? i = none ∧ ∃ words, m'.contents? i = some words
  kept : ∀ i ∉ held, m'.contents? i = m.contents? i

namespace Lends

theorem refl (m : Memory) : m.Lends ∅ m where
  lent _ mem := absurd mem (Finset.notMem_empty _)
  kept _ _ := rfl

variable {m m' : Memory} {held : Finset ℕ} (lends : m.Lends held m')
include lends

theorem allocate (wf' : m'.WellFormed) (size : Word) :
    m.Lends (insert m'.nextSlot held) (m'.allocate size).2 := by
  have updated := contents?_allocate wf' size
  have new : m'.nextSlot ∉ held := by
    intro mem
    obtain ⟨-, words, mapped⟩ := lends.lent _ mem
    exact ne_nextSlot wf' mapped rfl
  constructor
  · intro i mem
    rw [updated]
    split
    next same =>
      -- The next slot is not one that the host holds, so it was vacant before the host came.
      rw [same, ← lends.kept _ new]
      exact ⟨contents?_nextSlot wf', _, rfl⟩
    next other => exact lends.lent i ((Finset.mem_insert.mp mem).resolve_left other)
  · intro i notMem
    obtain ⟨other, notHeld⟩ := not_or.mp (mt Finset.mem_insert.mpr notMem)
    rw [updated, if_neg other, lends.kept i notHeld]

theorem release (wf : m.WellFormed) {id : Word} (mem : id.toNat ∈ held) :
    (m'.release id).1 = .ok () ∧ m.Lends (held.erase id.toNat) (m'.release id).2 := by
  obtain ⟨unmapped, words, mapped⟩ := lends.lent _ mem
  -- Segment 0 was mapped before the host came, so it is not lent.
  have nonzero : id ≠ 0 := by
    rintro rfl
    obtain ⟨program, first⟩ := wf.program_mapped
    cases unmapped.symm.trans first
  have updated := contents?_release nonzero mapped
  refine ⟨?_, ?_, ?_⟩
  · obtain ⟨-, -, -, granted⟩ | ⟨zero | absent, -⟩ := m'.release_cases id
    · rw [granted]
    · exact absurd zero nonzero
    · cases absent.symm.trans mapped
  · intro i still
    obtain ⟨other, held⟩ := Finset.mem_erase.mp still
    rw [updated, if_neg other]
    exact lends.lent i held
  · intro i notMem
    rw [updated]
    split
    next same => rw [same, unmapped]
    next other =>
      exact lends.kept i fun held => notMem (Finset.mem_erase.mpr ⟨other, held⟩)

theorem write {id : Word} (mem : id.toNat ∈ held) (offset word : Word) :
    m.Lends held (m'.write id offset word).2 := by
  obtain ⟨words, mapped, within, -⟩ | ⟨-, refused⟩ := m'.write_cases id offset word
  · have updated := contents?_write word mapped within
    constructor
    · intro i held
      obtain ⟨unmapped, mapped'⟩ := lends.lent i held
      rw [updated]
      split
      next => exact ⟨unmapped, _, rfl⟩
      next => exact ⟨unmapped, mapped'⟩
    · intro i notMem
      have other : i ≠ id.toNat := fun same => notMem (same ▸ mem)
      rw [updated, if_neg other, lends.kept i notMem]
  · rwa [refused]

variable (wf : m.WellFormed) (wf' : m'.WellFormed)
include wf wf'

theorem serve {call : Call} {held' : Finset ℕ}
    (few : (m'.serve call).2.slots.size < 2 ^ 32)
    (next : heldAfter? held (call, (m'.serve call).1) = some held') :
    m.Lends held' (m'.serve call).2 := by
  cases call with
  | allocate size =>
      rw [serve_allocate_fst wf' few] at next
      obtain rfl := Option.some.inj next
      exact lends.allocate wf' size
  | release id =>
      obtain ⟨mem, next⟩ := Option.ite_none_right_eq_some.mp next
      obtain rfl := Option.some.inj next
      simp only [Memory.serve, serve_change_snd]
      exact (lends.release wf mem).2
  | write id offset word =>
      obtain ⟨mem, next⟩ := Option.ite_none_right_eq_some.mp next
      obtain rfl := Option.some.inj next
      simp only [Memory.serve, serve_change_snd]
      exact lends.write mem offset word
  | loadProgram id => cases next
  | read id offset =>
      obtain rfl := Option.some.inj next
      rwa [serve_read_snd]
  | segment _ | segmentSize _ | isMapped _ | mappedCount =>
      obtain rfl := Option.some.inj next
      exact lends

theorem after {calls : List Call} {held' : Finset ℕ}
    (few : (m'.after calls).slots.size < 2 ^ 32)
    (balance : (m'.trace calls).foldlM heldAfter? held = some held') :
    m.Lends held' (m'.after calls) := by
  induction calls generalizing m' held with
  | nil =>
      obtain rfl := Option.some.inj balance
      exact lends
  | cons call calls ih =>
      rw [trace_cons, List.foldlM_cons] at balance
      obtain ⟨between, next, balance⟩ := Option.bind_eq_some_iff.mp balance
      have fewNow := Nat.lt_of_le_of_lt (size_le_session _ calls) few
      exact ih (lends.serve wf wf' fewNow next) (wf'.serve call) few balance

end Lends

/-! ### Memories that hold the same -/

section
variable {m m' : Memory} (same : ∀ i, m.contents? i = m'.contents? i)
include same

theorem alikeOutside_empty : m.AlikeOutside ∅ m' := by
  intro i
  rw [← same i]
  exact AlikeOutside.refl ∅ m i

variable (wf : m.WellFormed) (wf' : m'.WellFormed)
include wf wf'

/-- What the segments hold decides every answer, also those to later calls. -/
theorem trace_eq_of_contents? (calls : List Call) : m.trace calls = m'.trace calls := by
  have unchanged : List.Forall₂ (Call.Alike ∅) calls calls :=
    List.forall₂_same.mpr fun call _ => .same call
  obtain ⟨exchanges, -⟩ := (alikeOutside_empty same).trace wf wf' unchanged
    fun _ _ _ => Set.notMem_empty _
  rw [← List.forall₂_eq_eq_eq]
  refine exchanges.imp fun exchange exchange' alike => ?_
  cases alike with
  | same => rfl
  | write mem | read mem | segment mem => exact absurd mem (Set.notMem_empty _)

end

/-! ### Balanced calls -/

section
variable {m : Memory} (wf : m.WellFormed) {calls : List Call}
  (few : (m.after calls).slots.size < 2 ^ 32) (balanced : m.Balanced calls)
include wf few balanced

theorem contents?_after_of_balanced (i : ℕ) :
    (m.after calls).contents? i = m.contents? i :=
  ((Lends.refl m).after wf wf few balanced).kept i (Finset.notMem_empty i)

theorem trace_after_of_balanced (more : List Call) :
    (m.after calls).trace more = m.trace more :=
  trace_eq_of_contents? (contents?_after_of_balanced wf few balanced) (wf.after calls) wf more

end

theorem balanced_allocate_release (m : Memory) (size : Word) :
    m.Balanced [.allocate size, .release (m.allocate size).1] := by
  have mem : (m.allocate size).1.toNat ∈ insert (m.allocate size).1.toNat (∅ : Finset ℕ) :=
    Finset.mem_insert_self _ _
  simp only [Balanced, trace_cons, trace_nil, List.foldlM_cons, List.foldlM_nil]
  simp only [serve, heldAfter?, Answer.id?, Option.map_some, Option.bind_eq_bind,
    Option.bind_some, if_pos mem]
  rw [Finset.erase_insert (Finset.notMem_empty _)]
  rfl

section
variable {m : Memory} (wf : m.WellFormed) {size : Word}
  (few : (m.allocate size).2.slots.size < 2 ^ 32)
include wf few

theorem serve_release_allocate :
    ((m.allocate size).2.serve (.release (m.allocate size).1)).1 = .done := by
  have id_eq := Answer.id.inj (serve_allocate_fst wf few)
  have lends := (Lends.refl m).allocate wf size
  obtain ⟨granted, -⟩ := lends.release wf (Finset.mem_insert.mpr (.inl id_eq))
  exact (serve_change_fst granted : _ = (serve.change (.ok (), m)).1)

theorem serve_segment_allocate :
    ((m.allocate size).2.serve (.segment (m.allocate size).1)).1 =
      .segment (some (List.replicate size.toNat 0)) := by
  have id_eq := Answer.id.inj (serve_allocate_fst wf few)
  rw [serve, segment?, contents?_allocate wf, if_pos id_eq, Option.map_some,
    values_replicate_zero]

end

/-- Calls that touch only segments which they were given, and give all of them back, leave the
same segments mapped, with the same words; every later call is answered as it would have been
without them. So a segment that is mapped, unmapped and mapped again has the same id, and holds
zeros. -/
theorem balanced_calls_leave_no_trace {m : Memory} (reached : m.Reachable) :
    (∀ calls, (m.after calls).slots.size < 2 ^ 32 → m.Balanced calls →
      (∀ i, (m.after calls).contents? i = m.contents? i) ∧
        (m.after calls).mappedCount = m.mappedCount ∧
        ∀ more, (m.after calls).trace more = m.trace more) ∧
    ∀ size, (m.allocate size).2.slots.size < 2 ^ 32 →
      let id := (m.allocate size).1
      m.trace [.allocate size, .release id, .allocate size, .segment id] =
        [(.allocate size, .id id.toNat), (.release id, .done), (.allocate size, .id id.toNat),
          (.segment id, .segment (some (List.replicate size.toNat 0)))] := by
  have wf := reached.wellFormed
  constructor
  · intro calls few balanced
    have same := contents?_after_of_balanced wf few balanced
    refine ⟨same, ?_, trace_after_of_balanced wf few balanced⟩
    exact Related.mappedCount_eq (alikeOutside_empty same) (wf.after calls) wf
  · intro size few id
    have fewAfter : (m.after [.allocate size, .release id]).slots.size < 2 ^ 32 := by
      change (serve.change ((m.allocate size).2.release id)).2.slots.size < 2 ^ 32
      rwa [serve_change_snd, slots_size_release]
    have again := trace_after_of_balanced wf fewAfter (m.balanced_allocate_release size)
    calc
      m.trace [.allocate size, .release id, .allocate size, .segment id]
        = (.allocate size, .id id.toNat) :: (.release id, .done) ::
            (m.after [.allocate size, .release id]).trace [.allocate size, .segment id] := by
          rw [← serve_release_allocate wf few]
          rfl
      _ = (.allocate size, .id id.toNat) :: (.release id, .done) ::
            m.trace [.allocate size, .segment id] := by rw [again]
      _ = _ := by
          rw [← serve_segment_allocate wf few]
          rfl

/-- The host is given a segment between those in use and one at the end of the table, and one of
them twice. The table has grown when all are released. -/
theorem regrown_table_unnoticed :
    let m := (ofProgram #[7]).after [.allocate 2, .allocate 1, .release 1]
    let calls : List Call := [.allocate 3, .allocate 4, .write 1 0 5, .release 3, .allocate 1,
      .segment 1, .release 1, .release 3]
    (m.slots.size = 3 ∧ (m.after calls).slots.size = 4) ∧
      (∀ more, (m.after calls).trace more = m.trace more) ∧
      m.trace [.allocate 2, .release 1, .allocate 2, .segment 1] =
        [(.allocate 2, .id 1), (.release 1, .done), (.allocate 2, .id 1),
          (.segment 1, .segment (some [0, 0]))] := by
  intro m calls
  have reached : m.Reachable := ⟨_, _, rfl⟩
  obtain ⟨noTrace, again⟩ := balanced_calls_leave_no_trace reached
  have balanced : m.Balanced calls := by
    unfold Balanced
    decide
  obtain ⟨-, -, unnoticed⟩ := noTrace calls (by decide) balanced
  exact ⟨by decide, unnoticed, again 2 (by decide)⟩

end Memory

end UniversalMachine
