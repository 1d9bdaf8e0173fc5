import UniversalMachine.Proofs.Memory.WellFormed

/-!
Two memories compared segment by segment: the same ids are mapped in both, and the words under
an id are related in the way that is asked for that id. Each operation is then granted by both
or refused by both, and it keeps the comparison if the relation survives what the operation
does to the words.

Only what the segments hold is compared. The tables may differ in their vacant slots, in how
many there are and in the heap that names them; that the next slot is the same in both follows.
-/

namespace UniversalMachine.Memory

def Related (R : ℕ → Array Word → Array Word → Prop) (m m' : Memory) : Prop :=
  ∀ i, Option.Rel (R i) (m.contents? i) (m'.contents? i)

namespace Related

variable {R : ℕ → Array Word → Array Word → Prop} {m m' : Memory} (related : Related R m m')
include related

theorem contents?_cases (i : ℕ) :
    (∃ words words', m.contents? i = some words ∧ m'.contents? i = some words' ∧
        R i words words') ∨
      m.contents? i = none ∧ m'.contents? i = none := by
  have here := related i
  cases found : m.contents? i with
  | none =>
      rw [found] at here
      cases found' : m'.contents? i with
      | none => exact .inr ⟨rfl, rfl⟩
      | some words' =>
          rw [found'] at here
          cases here
  | some words =>
      rw [found] at here
      cases found' : m'.contents? i with
      | none =>
          rw [found'] at here
          cases here
      | some words' =>
          rw [found'] at here
          obtain ⟨same⟩ := here
          exact .inl ⟨words, words', rfl, rfl, same⟩

theorem mapped_iff (i : ℕ) :
    (∃ words, m.contents? i = some words) ↔ ∃ words, m'.contents? i = some words := by
  obtain ⟨words, words', found, found', -⟩ | ⟨absent, absent'⟩ := related.contents?_cases i
  · exact iff_of_true ⟨words, found⟩ ⟨words', found'⟩
  · rw [absent, absent']

theorem isMapped_eq (id : Word) : m.isMapped id = m'.isMapped id := by
  rw [Bool.eq_iff_iff, isMapped_iff, isMapped_iff]
  exact related.mapped_iff id.toNat

theorem mappedIds_eq : m.mappedIds = m'.mappedIds := by
  ext i
  rw [mem_mappedIds, mem_mappedIds, related.mapped_iff]

/-- Two updates of the same slot keep the comparison if they fill it with related words. -/
theorem of_update {n n' : Memory} {k : ℕ} {segment segment' : Option (Array Word)}
    (updated : ∀ i, n.contents? i = if i = k then segment else m.contents? i)
    (updated' : ∀ i, n'.contents? i = if i = k then segment' else m'.contents? i)
    (filled : Option.Rel (R k) segment segment') : Related R n n' := by
  intro i
  rw [updated, updated']
  split
  next same => exact same ▸ filled
  next => exact related i

/-! ### Operations of the same id -/

theorem release (id : Word) :
    (m.release id).1 = (m'.release id).1 ∧ Related R (m.release id).2 (m'.release id).2 := by
  have mapped_iff := related.mapped_iff id.toNat
  obtain ⟨words, nonzero, mapped, granted⟩ | ⟨invalid, refused⟩ := m.release_cases id
  · obtain ⟨words', -, mapped', granted'⟩ | ⟨invalid', -⟩ := m'.release_cases id
    · refine ⟨by rw [granted, granted'], ?_⟩
      exact related.of_update (contents?_release nonzero mapped)
        (contents?_release nonzero mapped') .none
    · obtain ⟨words', mapped'⟩ := mapped_iff.mp ⟨words, mapped⟩
      exact absurd (mapped'.symm.trans (invalid'.resolve_left nonzero)) nofun
  · obtain ⟨words', nonzero, mapped', -⟩ | ⟨-, refused'⟩ := m'.release_cases id
    · obtain ⟨words, mapped⟩ := mapped_iff.mpr ⟨words', mapped'⟩
      exact absurd (mapped.symm.trans (invalid.resolve_left nonzero)) nofun
    · rw [refused, refused']
      exact ⟨rfl, related⟩

/-- Loading a program moves words from one id to another; so they have to be related as those
of the id to which they go. -/
theorem loadProgram (wf : m.WellFormed) (id : Word)
    (copied : id ≠ 0 → ∀ words words', R id.toNat words words' → R 0 words words') :
    (m.loadProgram id).1 = (m'.loadProgram id).1 ∧
      Related R (m.loadProgram id).2 (m'.loadProgram id).2 := by
  by_cases zero : id = 0
  · rw [zero, loadProgram_zero, loadProgram_zero]
    exact ⟨rfl, related⟩
  · obtain ⟨program, first⟩ := wf.program_mapped
    obtain ⟨program', first'⟩ := (related.mapped_iff 0).mp ⟨program, first⟩
    obtain ⟨words, words', found, found', same⟩ | ⟨absent, absent'⟩ :=
      related.contents?_cases id.toNat
    · have left := contents?_loadProgram zero found first
      have right := contents?_loadProgram zero found' first'
      refine ⟨?_, related.of_update left right (.some (copied zero words words' same))⟩
      simp only [Memory.loadProgram, if_neg zero, segment?, found, found']
    · simp only [Memory.loadProgram, if_neg zero, segment?, absent, absent']
      exact ⟨trivial, related⟩

section
variable (wf : m.WellFormed) (wf' : m'.WellFormed)
include wf wf'

theorem mappedCount_eq : m.mappedCount = m'.mappedCount := by
  rw [← card_mappedIds wf, ← card_mappedIds wf', related.mappedIds_eq]

/-- The next slot is the least to which no segment is mapped, and the two memories use the
same slots. -/
theorem nextSlot_eq : m.nextSlot = m'.nextSlot := by
  obtain lt | same | gt := Nat.lt_trichotomy m.nextSlot m'.nextSlot
  · obtain ⟨words, mapped⟩ := (related.mapped_iff _).mpr (mapped_of_lt_nextSlot wf' lt)
    exact absurd rfl (ne_nextSlot wf mapped)
  · exact same
  · obtain ⟨words, mapped⟩ := (related.mapped_iff _).mp (mapped_of_lt_nextSlot wf gt)
    exact absurd rfl (ne_nextSlot wf' mapped)

theorem allocate (zeros : ∀ i words, R i words words) (size : Word) :
    (m.allocate size).1 = (m'.allocate size).1 ∧
      Related R (m.allocate size).2 (m'.allocate size).2 := by
  have next := related.nextSlot_eq wf wf'
  refine ⟨by rw [allocate_fst, allocate_fst, next], ?_⟩
  exact related.of_update (contents?_allocate wf size) (next ▸ contents?_allocate wf' size)
    (.some (zeros _ _))

end

/-! ### Reading and writing

Whether an offset is granted depends on the number of words. -/

section
variable (sizes : ∀ i words words', R i words words' → words.size = words'.size)
include sizes

theorem read_cases (id offset : Word) :
    (∃ words words' word word', R id.toNat words words' ∧
        m.segment? id = some words ∧ words[offset.toNat]? = some word ∧
        m'.segment? id = some words' ∧ words'[offset.toNat]? = some word' ∧
        m.read id offset = .ok word ∧ m'.read id offset = .ok word') ∨
      m.read id offset = .error (.segmentFault id offset) ∧
        m'.read id offset = .error (.segmentFault id offset) := by
  obtain ⟨words, words', found, found', same⟩ | ⟨absent, absent'⟩ :=
    related.contents?_cases id.toNat
  · have size_eq := sizes _ _ _ same
    simp only [Memory.read, segment?, found, found', Option.bind_some]
    by_cases within : offset.toNat < words.size
    · have entry := Array.getElem?_eq_getElem within
      have entry' := Array.getElem?_eq_getElem (size_eq ▸ within)
      exact .inl ⟨words, words', _, _, same, rfl, entry, rfl, entry', by rw [entry],
        by rw [entry']⟩
    · have beyond := Array.getElem?_eq_none (Nat.not_lt.mp within)
      have beyond' := Array.getElem?_eq_none (Nat.not_lt.mp (size_eq ▸ within))
      rw [beyond, beyond']
      exact .inr ⟨rfl, rfl⟩
  · rw [Memory.read, Memory.read, segment?, segment?, absent, absent']
    exact .inr ⟨rfl, rfl⟩

/-- The words that are written need not be the same. -/
theorem write (id offset word word' : Word)
    (kept : ∀ words words', R id.toNat words words' →
      R id.toNat (words.setIfInBounds offset.toNat word)
        (words'.setIfInBounds offset.toNat word')) :
    (m.write id offset word).1 = (m'.write id offset word').1 ∧
      Related R (m.write id offset word).2 (m'.write id offset word').2 := by
  obtain ⟨words, words', _, _, same, found, entry, found', entry', granted, granted'⟩ |
      ⟨refused, refused'⟩ := related.read_cases sizes id offset
  · have within := (Array.getElem?_eq_some_iff.mp entry).1
    have within' := (Array.getElem?_eq_some_iff.mp entry').1
    refine ⟨by rw [Memory.write, Memory.write, granted, granted'], ?_⟩
    exact related.of_update (contents?_write word found within)
      (contents?_write word' found' within') (.some (kept words words' same))
  · rw [Memory.write, Memory.write, refused, refused']
    exact ⟨rfl, related⟩

end

end Related

end UniversalMachine.Memory
