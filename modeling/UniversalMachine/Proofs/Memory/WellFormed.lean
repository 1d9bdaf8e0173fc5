import UniversalMachine.Heap.Lemmas
import UniversalMachine.Memory.Lemmas
import UniversalMachine.Word.Lemmas

/-!
The invariant of the segment table. The heap of vacant numbers and the flags of the slots
say the same thing twice; every operation keeps them in agreement. The slot that is
used next is then the least one to which no segment is mapped, whether it is taken from
the heap or appended to the table.

Nothing here bounds the number of slots. Only that a slot number fits into a word depends
on such a bound.
-/

namespace UniversalMachine.Memory

structure WellFormed (m : Memory) : Prop where
  program_mapped : ∃ program, m.contents? 0 = some program
  nodup_vacant : m.vacant.words.Nodup
  /-- The heap names the vacant slots and no others. -/
  mem_vacant : ∀ i : ℕ, (∃ id ∈ m.vacant.words, id.toNat = i) ↔ m.slots[i]? = some {}
  /-- A vacant slot holds no words. -/
  vacant_empty : ∀ (i : ℕ) (slot : Slot),
    m.slots[i]? = some slot → slot.mapped = false → slot = {}

/-- The slot of the segment that is mapped next. -/
def nextSlot (m : Memory) : ℕ :=
  match m.vacant.pop? with
  | some (id, _) => id.toNat
  | none => m.slots.size

section
variable {m : Memory} (wf : m.WellFormed)
include wf

theorem slot_cases {i : ℕ} (h : i < m.slots.size) :
    m.slots[i]? = some {} ∨ ∃ words, m.contents? i = some words := by
  obtain ⟨slot, found⟩ : ∃ slot, m.slots[i]? = some slot :=
    ⟨m.slots[i], Array.getElem?_eq_getElem h⟩
  cases mapped : slot.mapped with
  | false => exact .inl (wf.vacant_empty i slot found mapped ▸ found)
  | true =>
      refine .inr ⟨slot.words, contents?_eq_some_iff.mpr ?_⟩
      rw [found, ← mapped]

theorem slots_of_pop?_eq_some {id : Word} {rest : Heap}
    (popped : m.vacant.pop? = some (id, rest)) : m.slots[id.toNat]? = some {} := by
  refine (wf.mem_vacant id.toNat).mp ⟨id, ?_, rfl⟩
  rw [Heap.words_of_pop?_eq_some popped]
  exact Multiset.mem_cons_self id rest.words

theorem contents?_nextSlot : m.contents? m.nextSlot = none := by
  rw [contents?_eq_none_iff, nextSlot]
  intro slot found
  split at found
  next id rest popped =>
    rw [slots_of_pop?_eq_some wf popped] at found
    exact Option.some.inj found ▸ rfl
  next =>
    rw [Array.getElem?_eq_none (Nat.le_refl _)] at found
    exact absurd found.symm (Option.some_ne_none slot)

theorem ne_nextSlot {i : ℕ} {words : Array Word} (mapped : m.contents? i = some words) :
    i ≠ m.nextSlot := by
  rintro rfl
  cases mapped.symm.trans (contents?_nextSlot wf)

/-- No slot before the next one is vacant. -/
theorem mapped_of_lt_nextSlot {i : ℕ} (h : i < m.nextSlot) :
    ∃ words, m.contents? i = some words := by
  rw [nextSlot] at h
  split at h
  next id rest popped =>
    obtain ⟨inTable, _⟩ := Array.getElem?_eq_some_iff.mp (slots_of_pop?_eq_some wf popped)
    -- A vacant slot would be in the heap, and the heap gave its least word.
    refine (slot_cases wf (Nat.lt_trans h inTable)).resolve_left fun vacant => ?_
    obtain ⟨other, mem, rfl⟩ := (wf.mem_vacant i).mpr vacant
    have le : id.toNat ≤ other.toNat :=
      UInt32.le_iff_toNat_le.mp (Heap.le_of_pop?_eq_some popped mem)
    exact Nat.not_lt.mpr le h
  next popped =>
    refine (slot_cases wf h).resolve_left fun vacant => ?_
    obtain ⟨other, mem, -⟩ := (wf.mem_vacant i).mpr vacant
    rw [Heap.words_of_pop?_eq_none popped] at mem
    exact Multiset.notMem_zero other mem

/-- Mapping a segment fills the next slot with zeros and changes no other. -/
theorem contents?_allocate (size : Word) (i : ℕ) :
    (m.allocate size).2.contents? i =
      if i = m.nextSlot then some (Array.replicate size.toNat 0) else m.contents? i := by
  cases popped : m.vacant.pop? with
  | none =>
      simp only [allocate, nextSlot, popped, contents?, Array.getElem?_push]
      split <;> rfl
  | some taken =>
      obtain ⟨id, rest⟩ := taken
      obtain ⟨inTable, _⟩ := Array.getElem?_eq_some_iff.mp (slots_of_pop?_eq_some wf popped)
      simp only [allocate, nextSlot, popped, contents?, Array.getElem?_setIfInBounds]
      by_cases h : i = id.toNat
      · rw [if_pos h, if_pos h.symm, if_pos inTable]
        rfl
      · rw [if_neg h, if_neg (Ne.symm h)]

end

theorem allocate_fst (m : Memory) (size : Word) :
    (m.allocate size).1 = m.nextSlot.toUInt32 := by
  cases popped : m.vacant.pop? with
  | none => simp only [allocate, nextSlot, popped]
  | some taken =>
      simp only [allocate, nextSlot, popped]
      exact (UInt32.ofNat_toNat).symm

/-! ### Counting the mapped segments -/

def mappedIds (m : Memory) : Finset ℕ :=
  (Finset.range m.slots.size).filter fun i => (m.contents? i).isSome

theorem mem_mappedIds {m : Memory} {i : ℕ} :
    i ∈ m.mappedIds ↔ ∃ words, m.contents? i = some words := by
  rw [mappedIds, Finset.mem_filter, Finset.mem_range, Option.isSome_iff_exists]
  exact and_iff_right_of_imp fun ⟨_, mapped⟩ => lt_size_of_contents? mapped

section
variable {m : Memory} (wf : m.WellFormed)
include wf

theorem card_mappedIds_add_vacant : m.mappedIds.card + m.vacant.size = m.slots.size := by
  have vacantIds : (Finset.range m.slots.size).filter (fun i => ¬ (m.contents? i).isSome) =
      (m.vacant.words.map UInt32.toNat).toFinset := by
    ext i
    rw [Finset.mem_filter, Finset.mem_range, Multiset.mem_toFinset, Multiset.mem_map,
      wf.mem_vacant]
    constructor
    · rintro ⟨inTable, unmapped⟩
      refine (slot_cases wf inTable).resolve_right fun mapped => unmapped ?_
      exact Option.isSome_iff_exists.mpr mapped
    · intro vacant
      refine ⟨(Array.getElem?_eq_some_iff.mp vacant).1, ?_⟩
      rw [contents?, vacant]
      exact Bool.false_ne_true
  have vacantCount : ((Finset.range m.slots.size).filter
      (fun i => ¬ (m.contents? i).isSome)).card = m.vacant.size := by
    rw [vacantIds, Multiset.toFinset_card_of_nodup, Multiset.card_map, Heap.card_words]
    exact wf.nodup_vacant.map fun _ _ => UInt32.toNat_inj.mp
  have total := Finset.card_filter_add_card_filter_not (s := Finset.range m.slots.size)
    fun i => (m.contents? i).isSome = true
  rwa [Finset.card_range, vacantCount] at total

theorem card_mappedIds : m.mappedIds.card = m.mappedCount := by
  rw [mappedCount, ← card_mappedIds_add_vacant wf, Nat.add_sub_cancel]

/-- Every slot is mapped or vacant. -/
theorem mappedCount_add_vacant : m.mappedCount + m.vacant.size = m.slots.size := by
  rw [← card_mappedIds wf, card_mappedIds_add_vacant wf]

end

/-! ### The operations keep the invariant -/

theorem wellFormed_ofProgram (program : Array Word) : (ofProgram program).WellFormed where
  program_mapped := ⟨program, rfl⟩
  nodup_vacant := Multiset.nodup_zero
  mem_vacant i := by
    refine ⟨fun ⟨id, mem, _⟩ => absurd mem (Multiset.notMem_zero id), fun vacant => ?_⟩
    cases i with
    | zero => exact Bool.noConfusion (congrArg Slot.mapped (Option.some.inj vacant))
    | succ i => exact absurd vacant.symm (Option.some_ne_none _)
  vacant_empty i slot found unmapped := by
    cases i with
    | zero =>
        obtain rfl := Option.some.inj found
        exact Bool.noConfusion unmapped
    | succ i => exact absurd found.symm (Option.some_ne_none slot)

namespace WellFormed

variable {m : Memory} (wf : m.WellFormed)
include wf

theorem notMem_vacant {i : ℕ} {words : Array Word} (mapped : m.contents? i = some words) :
    ¬ ∃ id ∈ m.vacant.words, id.toNat = i := by
  intro h
  have same := (contents?_eq_some_iff.mp mapped).symm.trans ((wf.mem_vacant i).mp h)
  exact Bool.noConfusion (congrArg Slot.mapped (Option.some.inj same))

/-- What a change of one slot has to keep. -/
theorem of_update {m' : Memory} (k : ℕ) (slot : Slot)
    (updated : ∀ i : ℕ, m'.slots[i]? = if i = k then some slot else m.slots[i]?)
    (empty : slot.mapped = false → slot = {} ∧ k ≠ 0)
    (nodup : m'.vacant.words.Nodup)
    (vacant : ∀ i : ℕ, (∃ id ∈ m'.vacant.words, id.toNat = i) ↔
      if i = k then slot = {} else ∃ id ∈ m.vacant.words, id.toNat = i) :
    m'.WellFormed := by
  refine ⟨?_, nodup, fun i => ?_, fun i other found unmapped => ?_⟩
  · by_cases zero : 0 = k
    · cases mapped : slot.mapped with
      | false => exact absurd zero.symm (empty mapped).2
      | true =>
          refine ⟨slot.words, contents?_eq_some_iff.mpr ?_⟩
          rw [updated, if_pos zero, ← mapped]
    · obtain ⟨program, found⟩ := wf.program_mapped
      refine ⟨program, contents?_eq_some_iff.mpr ?_⟩
      rw [updated, if_neg zero]
      exact contents?_eq_some_iff.mp found
  · rw [vacant, updated]
    split
    · exact Option.some_inj.symm
    · exact wf.mem_vacant i
  · rw [updated] at found
    split at found
    · obtain rfl := Option.some.inj found
      exact (empty unmapped).1
    · exact wf.vacant_empty i other found unmapped

/-- A change of the words of a mapped slot keeps the invariant. -/
theorem modify {k : ℕ} {words : Array Word} (mapped : m.contents? k = some words)
    {change : Slot → Slot} (keeps : ∀ slot, (change slot).mapped = slot.mapped) :
    Memory.WellFormed { m with slots := m.slots.modify k change } := by
  have flag : (change { words, mapped := true }).mapped = true := keeps _
  refine of_update wf k (change { words, mapped := true }) (fun i => ?_)
    (fun unmapped => ?_) wf.nodup_vacant fun i => ?_
  · rw [Array.getElem?_modify]
    by_cases h : i = k
    · rw [if_pos h, if_pos h.symm, h, contents?_eq_some_iff.mp mapped, Option.map_some]
    · rw [if_neg h, if_neg (Ne.symm h)]
  · exact Bool.noConfusion (flag.symm.trans unmapped)
  · split
    next h =>
      subst h
      refine iff_of_false (wf.notMem_vacant mapped) fun empty => ?_
      exact Bool.noConfusion (flag.symm.trans (congrArg Slot.mapped empty))
    next => exact Iff.rfl

theorem write (id offset word : Word) : (m.write id offset word).2.WellFormed := by
  obtain ⟨words, mapped, -, granted⟩ | ⟨-, refused⟩ := m.write_cases id offset word
  · rw [granted]
    exact wf.modify mapped fun _ => rfl
  · rw [refused]
    exact wf

theorem loadProgram (id : Word) : (m.loadProgram id).2.WellFormed := by
  by_cases zero : id = 0
  · rw [zero, loadProgram_zero]
    exact wf
  · obtain ⟨words, -, granted⟩ | ⟨-, refused⟩ := m.loadProgram_cases zero
    · obtain ⟨program, mapped⟩ := wf.program_mapped
      rw [granted]
      exact wf.modify mapped fun _ => rfl
    · rw [refused]
      exact wf

theorem release (id : Word) : (m.release id).2.WellFormed := by
  obtain ⟨words, nonzero, mapped, granted⟩ | ⟨-, refused⟩ := m.release_cases id
  · have notMem := wf.notMem_vacant mapped
    have inTable : id.toNat < m.slots.size := lt_size_of_contents? mapped
    rw [granted]
    refine of_update wf id.toNat {} (fun i => ?_) (fun _ => ⟨rfl, ?_⟩) ?_ fun i => ?_
    · rw [Array.getElem?_setIfInBounds, if_pos inTable]
      exact if_congr eq_comm rfl rfl
    · exact fun zero => nonzero (Word.toNat_eq_zero_iff.mp zero)
    · rw [Heap.words_push, Multiset.nodup_cons]
      exact ⟨fun mem => notMem ⟨id, mem, rfl⟩, wf.nodup_vacant⟩
    · simp only [Heap.words_push, Multiset.mem_cons, or_and_right, exists_or,
        exists_eq_left]
      split
      next h => exact iff_of_true (.inl h.symm) trivial
      next h => exact or_iff_right (Ne.symm h)
  · rw [refused]
    exact wf

theorem allocate (size : Word) : (m.allocate size).2.WellFormed := by
  let zeros : Slot := { words := Array.replicate size.toNat 0, mapped := true }
  cases popped : m.vacant.pop? with
  | none =>
      simp only [Memory.allocate, popped]
      refine of_update wf m.slots.size zeros (fun i => ?_) (fun unmapped => ?_)
        wf.nodup_vacant fun i => ?_
      · exact Array.getElem?_push
      · exact Bool.noConfusion unmapped
      · have notMem : ¬ ∃ id ∈ m.vacant.words, id.toNat = i := by
          rw [Heap.words_of_pop?_eq_none popped]
          exact fun ⟨id, mem, _⟩ => Multiset.notMem_zero id mem
        split
        · refine iff_of_false notMem fun empty => ?_
          exact Bool.noConfusion (congrArg Slot.mapped empty)
        · exact Iff.rfl
  | some taken =>
      obtain ⟨id, rest⟩ := taken
      have words_eq := Heap.words_of_pop?_eq_some popped
      obtain ⟨notMem, nodup⟩ : id ∉ rest.words ∧ rest.words.Nodup :=
        Multiset.nodup_cons.mp (words_eq ▸ wf.nodup_vacant)
      obtain ⟨inTable, -⟩ := Array.getElem?_eq_some_iff.mp (slots_of_pop?_eq_some wf popped)
      simp only [Memory.allocate, popped]
      refine of_update wf id.toNat zeros (fun i => ?_) (fun unmapped => ?_) nodup fun i => ?_
      · rw [Array.getElem?_setIfInBounds, if_pos inTable]
        exact if_congr eq_comm rfl rfl
      · exact Bool.noConfusion unmapped
      · split
        next h =>
          refine iff_of_false ?_ fun empty => Bool.noConfusion (congrArg Slot.mapped empty)
          rintro ⟨other, mem, same⟩
          obtain rfl := UInt32.toNat_inj.mp (same.trans h)
          exact notMem mem
        next h =>
          rw [words_eq]
          simp only [Multiset.mem_cons, or_and_right, exists_or, exists_eq_left]
          exact (or_iff_right (Ne.symm h)).symm

end WellFormed

end UniversalMachine.Memory
