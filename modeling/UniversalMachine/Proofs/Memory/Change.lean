import UniversalMachine.Proofs.Memory.WellFormed

/-!
What a request can do to memory, and what that keeps: the invariant of the segment table,
the slots in it, and that no segment has more words than a word can count.
-/

namespace UniversalMachine.Memory

/-- A memory is left by one operation on another, or by none. The operation may have been
refused. -/
inductive Change (m : Memory) : Memory → Prop
  | none : Change m m
  | write (id offset word : Word) : Change m (m.write id offset word).2
  | allocate (size : Word) : Change m (m.allocate size).2
  | release (id : Word) : Change m (m.release id).2
  | loadProgram (id : Word) : Change m (m.loadProgram id).2

theorem WellFormed.change {m m' : Memory} (wf : m.WellFormed) (change : m.Change m') :
    m'.WellFormed := by
  cases change with
  | none => exact wf
  | write id offset word => exact wf.write id offset word
  | allocate size => exact wf.allocate size
  | release id => exact wf.release id
  | loadProgram id => exact wf.loadProgram id

theorem slots_size_write (m : Memory) (id offset word : Word) :
    (m.write id offset word).2.slots.size = m.slots.size := by
  obtain ⟨_, -, -, granted⟩ | ⟨-, refused⟩ := m.write_cases id offset word
  · rw [granted, Array.size_modify]
  · rw [refused]

theorem slots_size_release (m : Memory) (id : Word) :
    (m.release id).2.slots.size = m.slots.size := by
  obtain ⟨_, -, -, granted⟩ | ⟨-, refused⟩ := m.release_cases id
  · rw [granted, Array.size_setIfInBounds]
  · rw [refused]

theorem slots_size_loadProgram (m : Memory) (id : Word) :
    (m.loadProgram id).2.slots.size = m.slots.size := by
  by_cases zero : id = 0
  · rw [zero, loadProgram_zero]
  · obtain ⟨_, -, granted⟩ | ⟨-, refused⟩ := m.loadProgram_cases zero
    · rw [granted, Array.size_modify]
    · rw [refused]

/-- The table grows only if no slot is vacant, and then by one slot. -/
theorem slots_size_allocate (m : Memory) (size : Word) :
    (m.allocate size).2.slots.size = m.slots.size ∨
      m.vacant.pop? = none ∧ (m.allocate size).2.slots.size = m.slots.size + 1 := by
  rw [Memory.allocate]
  split
  next => exact .inl Array.size_setIfInBounds
  next popped => exact .inr ⟨popped, Array.size_push _⟩

/-- The table never shrinks. -/
theorem Change.size_le {m m' : Memory} (change : m.Change m') :
    m.slots.size ≤ m'.slots.size := by
  cases change with
  | none => exact Nat.le_refl _
  | allocate size =>
      obtain same | ⟨-, grown⟩ := m.slots_size_allocate size
      · exact same.ge
      · exact grown ▸ Nat.le_succ _
  | write id offset word => exact (m.slots_size_write id offset word).ge
  | release id => exact (m.slots_size_release id).ge
  | loadProgram id => exact (m.slots_size_loadProgram id).ge

/-- Every offset of every segment is a word. -/
def Short (m : Memory) : Prop :=
  ∀ (i : ℕ) (words : Array Word), m.contents? i = some words → words.size < 2 ^ 32

theorem short_ofProgram {program : Array Word} (short : program.size < 2 ^ 32) :
    (ofProgram program).Short := by
  intro i words mapped
  rw [contents?_ofProgram] at mapped
  split at mapped
  · exact Option.some.inj mapped ▸ short
  · cases mapped

namespace Short

variable {m : Memory} (short : m.Short)
include short

theorem of_update {m' : Memory} {k : ℕ} {segment : Option (Array Word)}
    (updated : ∀ i, m'.contents? i = if i = k then segment else m.contents? i)
    (fits : ∀ words, segment = some words → words.size < 2 ^ 32) : m'.Short := by
  intro i words mapped
  rw [updated] at mapped
  split at mapped
  · exact fits words mapped
  · exact short i words mapped

theorem write (id offset word : Word) : (m.write id offset word).2.Short := by
  obtain ⟨words, mapped, within, -⟩ | ⟨-, refused⟩ := m.write_cases id offset word
  · refine short.of_update (contents?_write word mapped within) ?_
    rintro _ ⟨⟩
    rw [Array.size_setIfInBounds]
    exact short id.toNat words mapped
  · rw [refused]
    exact short

theorem allocate (wf : m.WellFormed) (size : Word) : (m.allocate size).2.Short := by
  refine short.of_update (contents?_allocate wf size) ?_
  rintro _ ⟨⟩
  rw [Array.size_replicate]
  exact size.toNat_lt

theorem release (id : Word) : (m.release id).2.Short := by
  obtain ⟨words, nonzero, mapped, -⟩ | ⟨-, refused⟩ := m.release_cases id
  · exact short.of_update (contents?_release nonzero mapped) fun _ => nofun
  · rw [refused]
    exact short

theorem loadProgram (wf : m.WellFormed) (id : Word) : (m.loadProgram id).2.Short := by
  by_cases zero : id = 0
  · rw [zero, loadProgram_zero]
    exact short
  · obtain ⟨words, found, -⟩ | ⟨-, refused⟩ := m.loadProgram_cases zero
    · obtain ⟨program, mapped⟩ := wf.program_mapped
      refine short.of_update (contents?_loadProgram zero found mapped) ?_
      rintro _ ⟨⟩
      exact short id.toNat words found
    · rw [refused]
      exact short

theorem change (wf : m.WellFormed) {m' : Memory} (change : m.Change m') : m'.Short := by
  cases change with
  | none => exact short
  | write id offset word => exact short.write id offset word
  | allocate size => exact short.allocate wf size
  | release id => exact short.release id
  | loadProgram id => exact short.loadProgram wf id

theorem succ_lt_of_read {id offset word : Word} (granted : m.read id offset = .ok word) :
    offset.toNat + 1 < 2 ^ 32 := by
  obtain ⟨words, _, mapped, entry, -⟩ | ⟨-, refused⟩ := m.read_cases id offset
  · have within := (Array.getElem?_eq_some_iff.mp entry).1
    exact Nat.lt_of_le_of_lt within (short id.toNat words mapped)
  · cases granted.symm.trans refused

end Short

/-! ### The size of the program

Of the operations only the loading of a program changes it. -/

/-- Writing changes the size of no segment. -/
theorem segmentSize?_write (m : Memory) (id offset word other : Word) :
    (m.write id offset word).2.segmentSize? other = m.segmentSize? other := by
  obtain ⟨words, mapped, within, -⟩ | ⟨-, refused⟩ := m.write_cases id offset word
  · simp only [segmentSize?, segment?, contents?_write word mapped within]
    split
    next same =>
      rw [same, show m.contents? id.toNat = some words from mapped]
      simp
    next => rfl
  · rw [refused]

/-- Segment 0 cannot be unmapped. -/
theorem programSize_release (m : Memory) (id : Word) :
    (m.release id).2.segmentSize? 0 = m.segmentSize? 0 := by
  obtain ⟨words, nonzero, mapped, -⟩ | ⟨-, refused⟩ := m.release_cases id
  · have other : (0 : Word).toNat ≠ id.toNat :=
      fun same => nonzero (UInt32.toNat_inj.mp same.symm)
    simp only [segmentSize?, segment?, contents?_release nonzero mapped, if_neg other]
  · rw [refused]

/-- Segment 0 is in use; so its slot is never the next one to be filled. -/
theorem WellFormed.programSize_allocate {m : Memory} (wf : m.WellFormed) (size : Word) :
    (m.allocate size).2.segmentSize? 0 = m.segmentSize? 0 := by
  obtain ⟨program, mapped⟩ := wf.program_mapped
  have other : (0 : Word).toNat ≠ m.nextSlot := ne_nextSlot wf mapped
  simp only [segmentSize?, segment?, contents?_allocate wf, if_neg other]

end UniversalMachine.Memory
