import UniversalMachine.Proofs.Memory.Trace

/-!
Ids stay compact. The table grows only when each of its slots is mapped; so it never has more
slots than segments were mapped at once, and the ids that are handed out are the numbers of
these slots. The least vacant one is used first, so that an id is at most the number of
segments which are mapped at the time.
-/

namespace UniversalMachine.Memory

/-- The most segments that are mapped at once from the first call to the end. -/
def peak (m : Memory) : List Call → ℕ
  | [] => m.mappedCount
  | call :: calls => max m.mappedCount ((m.serve call).2.peak calls)

/-- The ids that are handed out, one for each call that asks for one. -/
def ids (m : Memory) (calls : List Call) : List ℕ :=
  (m.trace calls).filterMap fun exchange => exchange.2.id?

theorem mappedCount_le_peak (m : Memory) (calls : List Call) : m.mappedCount ≤ m.peak calls := by
  cases calls with
  | nil => exact Nat.le_refl _
  | cons call calls => exact Nat.le_max_left _ _

theorem mem_ids_cons {m : Memory} {call : Call} {calls : List Call} {id : ℕ} :
    id ∈ m.ids (call :: calls) ↔
      (m.serve call).1.id? = some id ∨ id ∈ (m.serve call).2.ids calls := by
  simp only [ids, trace_cons, List.mem_filterMap, List.mem_cons, or_and_right, exists_or,
    exists_eq_left]

theorem id?_serve_change (result : Except Fault Unit × Memory) :
    (serve.change result).1.id? = none := by
  obtain ⟨answer | answer, m⟩ := result <;> rfl

/-- One call adds at most one slot, and does so only if no slot is vacant. -/
theorem slots_size_serve_cases (m : Memory) (call : Call) :
    (m.serve call).2.slots.size = m.slots.size ∨
      ∃ size, call = .allocate size ∧ m.vacant.pop? = none ∧
        (m.serve call).2.slots.size = m.slots.size + 1 := by
  cases call with
  | allocate size =>
      obtain same | ⟨popped, grown⟩ := m.slots_size_allocate size
      · exact .inl same
      · exact .inr ⟨size, rfl, popped, grown⟩
  | read id offset => exact .inl (by rw [serve_read_snd])
  | release id => exact .inl (by rw [serve, serve_change_snd, slots_size_release])
  | write id offset word => exact .inl (by rw [serve, serve_change_snd, slots_size_write])
  | loadProgram id => exact .inl (by rw [serve, serve_change_snd, slots_size_loadProgram])
  | segment _ | segmentSize _ | isMapped _ | mappedCount => exact .inl rfl

section
variable {m : Memory} (wf : m.WellFormed)
include wf

theorem nextSlot_le_mappedCount : m.nextSlot ≤ m.mappedCount := by
  rw [← card_mappedIds wf, ← Finset.card_range m.nextSlot]
  apply Finset.card_le_card
  intro i mem
  exact mem_mappedIds.mpr (mapped_of_lt_nextSlot wf (Finset.mem_range.mp mem))

theorem mappedCount_le_slots_size : m.mappedCount ≤ m.slots.size :=
  mappedCount_add_vacant wf ▸ Nat.le_add_right _ _

theorem slots_size_serve (call : Call) :
    (m.serve call).2.slots.size = max m.slots.size (m.serve call).2.mappedCount := by
  have le := mappedCount_le_slots_size (wf.serve call)
  obtain same | ⟨size, rfl, popped, grown⟩ := m.slots_size_serve_cases call
  · rw [same] at le ⊢
    exact (Nat.max_eq_left le).symm
  · have noneVacant : m.vacant.size = 0 := by
      rw [← Heap.card_words, Heap.words_of_pop?_eq_none popped, Multiset.card_zero]
    have full : (m.serve (.allocate size)).2.mappedCount = m.slots.size + 1 := by
      simp only [serve, allocate, popped, mappedCount, Array.size_push, noneVacant]
      rfl
    rw [full, grown]
    exact (Nat.max_eq_right (Nat.le_succ _)).symm

theorem slots_size_after (calls : List Call) :
    (m.after calls).slots.size = max m.slots.size (m.peak calls) := by
  induction calls generalizing m with
  | nil => exact (Nat.max_eq_left (mappedCount_le_slots_size wf)).symm
  | cons call calls ih =>
      have start := mappedCount_le_slots_size wf
      have next := (m.serve call).2.mappedCount_le_peak calls
      rw [after_cons, ih (wf.serve call), slots_size_serve wf, peak]
      omega

theorem slots_size_serve_of_vacant {i : ℕ} (inTable : i < m.slots.size)
    (vacant : m.contents? i = none) (call : Call) :
    (m.serve call).2.slots.size = m.slots.size := by
  obtain same | ⟨size, rfl, popped, -⟩ := m.slots_size_serve_cases call
  · exact same
  · have next : m.nextSlot = m.slots.size := by rw [nextSlot, popped]
    obtain ⟨words, mapped⟩ := mapped_of_lt_nextSlot wf (next ▸ inTable)
    cases vacant.symm.trans mapped

/-! ### The ids that are handed out -/

theorem id?_serve {call : Call} (few : (m.serve call).2.slots.size < 2 ^ 32) {id : ℕ}
    (handed : (m.serve call).1.id? = some id) :
    id = m.nextSlot ∧ id < (m.serve call).2.slots.size := by
  cases call with
  | allocate size =>
      rw [serve_allocate_fst wf few] at handed
      obtain rfl := Option.some.inj handed
      exact ⟨rfl, nextSlot_lt_size_allocate wf size⟩
  | read id offset =>
      rw [serve] at handed
      split at handed <;> cases handed
  | release _ | write _ _ _ | loadProgram _ =>
      rw [serve, id?_serve_change] at handed
      cases handed
  | segment _ | segmentSize _ | isMapped _ | mappedCount => cases handed

theorem ids_bounds {calls : List Call} (few : (m.after calls).slots.size < 2 ^ 32) {id : ℕ}
    (mem : id ∈ m.ids calls) : 0 < id ∧ id < (m.after calls).slots.size := by
  induction calls generalizing m with
  | nil => cases mem
  | cons call calls ih =>
      have le := size_le_session (m.serve call).2 calls
      obtain handed | later := mem_ids_cons.mp mem
      · obtain ⟨rfl, lt⟩ := id?_serve wf (Nat.lt_of_le_of_lt le few) handed
        obtain ⟨program, first⟩ := wf.program_mapped
        exact ⟨Nat.pos_of_ne_zero (ne_nextSlot wf first).symm, Nat.lt_of_lt_of_le lt le⟩
      · exact ih (wf.serve call) few later

theorem mem_ids_of_added {calls : List Call} (few : (m.after calls).slots.size < 2 ^ 32) {i : ℕ}
    (new : m.slots.size ≤ i) (inTable : i < (m.after calls).slots.size) : i ∈ m.ids calls := by
  induction calls generalizing m with
  | nil => exact absurd inTable (Nat.not_lt.mpr new)
  | cons call calls ih =>
      have le := size_le_session (m.serve call).2 calls
      rw [mem_ids_cons]
      -- Either this call adds the slot, and hands it out, or a later one does.
      by_cases now : i < (m.serve call).2.slots.size
      · obtain same | ⟨size, rfl, popped, grown⟩ := m.slots_size_serve_cases call
        · exact absurd now (Nat.not_lt.mpr (same ▸ new))
        · rw [grown] at now
          have last : i = m.slots.size := Nat.le_antisymm (Nat.le_of_lt_succ now) new
          rw [serve_allocate_fst wf (Nat.lt_of_le_of_lt le few), nextSlot, popped, last]
          exact .inl rfl
      · exact .inr (ih (wf.serve call) few (Nat.not_lt.mp now) inTable)

end

/-- The table has as many slots as segments were mapped at once at most; so the largest id that
was handed out is one less than that, and none was while only the program was mapped. No id is
more than the number of segments which are mapped when it is handed out. The table does not
grow while there is an unmapped id in it. -/
theorem ids_stay_compact {program : Array Word} {calls : List Call} {m : Memory}
    (left : (ofProgram program).after calls = m) (few : m.slots.size < 2 ^ 32) :
    let peak := (ofProgram program).peak calls
    m.slots.size = peak ∧
      ((ofProgram program).ids calls).max? = (if peak = 1 then none else some (peak - 1)) ∧
      (∀ size, (m.allocate size).1.toNat ≤ m.mappedCount) ∧
      ∀ i < m.slots.size, m.contents? i = none →
        ∀ call, (m.serve call).2.slots.size = m.slots.size := by
  subst left
  intro peak
  have start := wellFormed_ofProgram program
  have wf := start.after calls
  have atLeast : 1 ≤ peak := (ofProgram program).mappedCount_le_peak calls
  have slots : ((ofProgram program).after calls).slots.size = peak := by
    rw [slots_size_after start]
    exact Nat.max_eq_right atLeast
  refine ⟨slots, ?_, fun size => ?_, fun i inTable vacant => ?_⟩
  · split
    next one =>
      rw [List.max?_eq_none_iff, List.eq_nil_iff_forall_not_mem]
      intro id mem
      have := ids_bounds start few mem
      omega
    next more =>
      rw [List.max?_eq_some_iff]
      constructor
      · apply mem_ids_of_added start few
        · change 1 ≤ peak - 1
          omega
        · omega
      · intro id mem
        have := ids_bounds start few mem
        omega
  · rw [allocate_fst]
    refine Nat.le_trans ?_ (nextSlot_le_mappedCount wf)
    rw [Nat.toUInt32_eq, UInt32.toNat_ofNat']
    exact Nat.mod_le _ _
  · exact slots_size_serve_of_vacant wf inTable vacant

/-- Two ids do for four segments, of which no more than two are mapped at once. -/
theorem recycled_ids_compact :
    let calls : List Call :=
      [.allocate 2, .allocate 1, .release 1, .allocate 4, .release 2, .allocate 1, .release 1]
    let m := (ofProgram #[7]).after calls
    m.slots.size = 3 ∧ (ofProgram #[7]).peak calls = 3 ∧
      (ofProgram #[7]).ids calls = [1, 2, 1, 2] ∧
      ((ofProgram #[7]).ids calls).max? = some 2 ∧
      m.mappedCount = 2 ∧ ∀ call, (m.serve call).2.slots.size = 3 := by
  intro calls m
  obtain ⟨slots, largest, -, full⟩ :=
    ids_stay_compact (rfl : (ofProgram #[7]).after calls = m) (by decide)
  have three : m.slots.size = 3 := by decide
  have peak : (ofProgram #[7]).peak calls = 3 := slots.symm.trans three
  rw [peak] at largest
  refine ⟨three, peak, by decide, largest, by decide, fun call => ?_⟩
  exact (full 1 (by decide) (by decide) call).trans three

end UniversalMachine.Memory
