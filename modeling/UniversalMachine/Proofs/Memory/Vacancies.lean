import UniversalMachine.Proofs.Memory.Trace

/-!
What the table and the heap of a memory say about each other after any sequence of calls,
granted or refused. A slot is in the heap if and only if its flag is not set, and then it holds
no words; it is there once. Slot 0 keeps its flag, so that the heap never hands it out. The
difference of the two sizes, which is all that counting the mapped segments looks at, is then
the number of flags that are set.
-/

namespace UniversalMachine.Memory

theorem isSome_contents? (m : Memory) (i : ℕ) :
    (m.contents? i).isSome = (m.slots[i]?.getD {}).mapped := by
  rw [contents?]
  cases m.slots[i]? with
  | none => rfl
  | some slot => cases mapped : slot.mapped <;> simp [mapped]

/-- The mapped ids are counted by the flags of the slots. -/
theorem card_mappedIds_eq_countP (m : Memory) :
    m.mappedIds.card = m.slots.countP Slot.mapped := by
  have slots : m.slots.toList = (List.range m.slots.size).map fun i => m.slots[i]?.getD {} := by
    apply List.ext_getElem
    · rw [List.length_map, List.length_range, Array.length_toList]
    · intro i inTable _
      rw [Array.length_toList] at inTable
      simp [inTable]
  calc m.mappedIds.card
      = (List.range m.slots.size).countP fun i => (m.contents? i).isSome := by
        simp only [mappedIds, Finset.card_def, Finset.filter_val, Finset.range_val, Multiset.range,
          Multiset.filter_coe, Multiset.coe_card, Bool.decide_eq_true, List.countP_eq_length_filter]
    _ = (List.range m.slots.size).countP (Slot.mapped ∘ fun i => m.slots[i]?.getD {}) := by
        simp only [isSome_contents?, Function.comp_def]
    _ = m.slots.countP Slot.mapped := by
        rw [← List.countP_map, ← slots, Array.countP_toList]

namespace WellFormed

variable {m : Memory} (wf : m.WellFormed)
include wf

theorem mem_vacant_iff (i : ℕ) :
    (∃ id ∈ m.vacant.words, id.toNat = i) ↔
      ∃ slot, m.slots[i]? = some slot ∧ slot.mapped = false := by
  rw [wf.mem_vacant]
  constructor
  · intro vacant
    exact ⟨{}, vacant, rfl⟩
  · rintro ⟨slot, found, unmapped⟩
    exact wf.vacant_empty i slot found unmapped ▸ found

theorem zero_notMem_vacant : 0 ∉ m.vacant.words := by
  obtain ⟨program, mapped⟩ := wf.program_mapped
  exact fun mem => wf.notMem_vacant mapped ⟨0, mem, rfl⟩

theorem mappedCount_eq_countP : m.mappedCount = m.slots.countP Slot.mapped := by
  rw [← card_mappedIds wf, card_mappedIds_eq_countP]

end WellFormed

/-- Whatever calls were made to a memory, and whichever of them were refused: slot 0 is there
and mapped; the heap does not hold 0, holds no id twice, and holds the numbers of those slots
whose flag is not set; such a slot has no words; and the mapped segments are counted right, by
a difference that is not cut off at zero. -/
theorem vacancies_match_flags (program : Array Word) (calls : List Call) :
    let m := (ofProgram program).after calls
    (∃ slot, m.slots[0]? = some slot ∧ slot.mapped = true) ∧ 0 ∉ m.vacant.words ∧
      m.vacant.words.Nodup ∧
      (∀ i, (∃ id ∈ m.vacant.words, id.toNat = i) ↔
        ∃ slot, m.slots[i]? = some slot ∧ slot.mapped = false) ∧
      (∀ slot ∈ m.slots, slot.mapped = false → slot.words = #[]) ∧
      m.mappedCount = m.slots.countP Slot.mapped ∧ m.vacant.size ≤ m.slots.size := by
  intro m
  have wf : m.WellFormed := (wellFormed_ofProgram program).after calls
  obtain ⟨words, first⟩ := wf.program_mapped
  refine ⟨⟨_, contents?_eq_some_iff.mp first, rfl⟩, wf.zero_notMem_vacant, wf.nodup_vacant,
    wf.mem_vacant_iff, fun slot mem unmapped => ?_, wf.mappedCount_eq_countP, ?_⟩
  · obtain ⟨i, found⟩ := Array.mem_iff_getElem?.mp mem
    rw [wf.vacant_empty i slot found unmapped]
  · rw [← mappedCount_add_vacant wf]
    exact Nat.le_add_left _ _

/-- Two ids that were given back, one of them twice, and one that was never handed out. -/
example :
    let m := (ofProgram #[7]).after
      [.allocate 2, .allocate 3, .release 2, .release 1, .release 2, .release 9, .release 0]
    m.slots = #[⟨#[7], true⟩, ⟨#[], false⟩, ⟨#[], false⟩] ∧ m.vacant.size = 2 ∧
      m.mappedCount = 1 := by
  decide

end UniversalMachine.Memory
