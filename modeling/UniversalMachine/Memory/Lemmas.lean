import UniversalMachine.Memory

/-!
What the operations on memory do. One lemma for each operation that may be refused says
when it is granted and what it then leaves; a refused operation leaves the memory as it
was. The equations that follow give the effect on the view `Memory.contents?`.

Mapping a segment depends on the vacant slots; its equation is with their invariant.
-/

namespace UniversalMachine.Memory

theorem contents?_eq_some_iff {m : Memory} {i : Nat} {words : Array Word} :
    m.contents? i = some words ↔ m.slots[i]? = some { words, mapped := true } := by
  simp only [contents?, Option.map_eq_some_iff, Option.filter_eq_some_iff]
  constructor
  · rintro ⟨⟨_, mapped⟩, ⟨found, rfl⟩, rfl⟩
    exact found
  · intro found
    exact ⟨_, ⟨found, rfl⟩, rfl⟩

theorem contents?_eq_none_iff {m : Memory} {i : Nat} :
    m.contents? i = none ↔ ∀ slot, m.slots[i]? = some slot → slot.mapped = false := by
  simp only [contents?, Option.map_eq_none_iff, Option.filter_eq_none_iff,
    Bool.not_eq_true]

theorem lt_size_of_contents? {m : Memory} {i : Nat} {words : Array Word}
    (mapped : m.contents? i = some words) : i < m.slots.size :=
  (Array.getElem?_eq_some_iff.mp (contents?_eq_some_iff.mp mapped)).1

theorem isMapped_iff {m : Memory} {id : Word} :
    m.isMapped id ↔ ∃ words, m.segment? id = some words :=
  Option.isSome_iff_exists

theorem contents?_ofProgram (program : Array Word) (i : Nat) :
    (ofProgram program).contents? i = if i = 0 then some program else none := by
  cases i with
  | zero => rfl
  | succ i => rfl

/-! ### When a request is granted -/

/-- An offset is beyond the words of a segment, or the segment is not mapped. -/
def Beyond (m : Memory) (id offset : Word) : Prop :=
  ∀ words, m.segment? id = some words → words.size ≤ offset.toNat

theorem read_cases (m : Memory) (id offset : Word) :
    (∃ words word, m.segment? id = some words ∧ words[offset.toNat]? = some word ∧
        m.read id offset = .ok word) ∨
      m.Beyond id offset ∧ m.read id offset = .error (.segmentFault id offset) := by
  rw [read]
  split
  next word found =>
    obtain ⟨words, mapped, entry⟩ := Option.bind_eq_some_iff.mp found
    exact .inl ⟨words, word, mapped, entry, rfl⟩
  next absent =>
    refine .inr ⟨fun words mapped => ?_, rfl⟩
    exact Array.getElem?_eq_none_iff.mp (Option.bind_eq_none_iff.mp absent words mapped)

theorem not_beyond_of_read {m : Memory} {id offset word : Word}
    (granted : m.read id offset = .ok word) : ¬ m.Beyond id offset := by
  obtain ⟨words, _, mapped, entry, -⟩ | ⟨-, refused⟩ := m.read_cases id offset
  · intro beyond
    exact absurd (Array.getElem?_eq_some_iff.mp entry).1 (Nat.not_lt.mpr (beyond words mapped))
  · cases granted.symm.trans refused

theorem write_cases (m : Memory) (id offset word : Word) :
    (∃ words, m.segment? id = some words ∧ offset.toNat < words.size ∧
        m.write id offset word = (.ok (), { m with
          slots := m.slots.modify id.toNat fun { words, mapped } =>
            { words := words.setIfInBounds offset.toNat word, mapped } })) ∨
      m.Beyond id offset ∧
        m.write id offset word = (.error (.segmentFault id offset), m) := by
  rw [write]
  obtain ⟨words, old, mapped, entry, granted⟩ | ⟨beyond, refused⟩ := m.read_cases id offset
  · rw [granted]
    exact .inl ⟨words, mapped, (Array.getElem?_eq_some_iff.mp entry).1, rfl⟩
  · rw [refused]
    exact .inr ⟨beyond, rfl⟩

theorem release_cases (m : Memory) (id : Word) :
    (∃ words, id ≠ 0 ∧ m.segment? id = some words ∧ m.release id =
        (.ok (), { slots := m.slots.setIfInBounds id.toNat {}, vacant := m.vacant.push id })) ∨
      (id = 0 ∨ m.segment? id = none) ∧ m.release id = (.error (.invalidSegment id), m) := by
  rw [release]
  split
  next refused =>
    refine .inr ⟨refused.imp_right fun unmapped => ?_, rfl⟩
    cases found : m.segment? id with
    | none => rfl
    | some words => exact absurd (isMapped_iff.mpr ⟨words, found⟩) unmapped
  next granted =>
    obtain ⟨nonzero, mapped⟩ := not_or.mp granted
    obtain ⟨words, found⟩ := isMapped_iff.mp (Decidable.not_not.mp mapped)
    exact .inl ⟨words, nonzero, found, rfl⟩

theorem loadProgram_zero (m : Memory) : m.loadProgram 0 = (.ok (), m) := rfl

theorem loadProgram_cases (m : Memory) {id : Word} (nonzero : id ≠ 0) :
    (∃ words, m.segment? id = some words ∧ m.loadProgram id =
        (.ok (), { m with slots := m.slots.modify 0 fun slot => { slot with words } })) ∨
      m.segment? id = none ∧ m.loadProgram id = (.error (.segmentFault id 0), m) := by
  rw [loadProgram, if_neg nonzero]
  split
  next words found => exact .inl ⟨words, found, rfl⟩
  next absent => exact .inr ⟨absent, rfl⟩

/-! ### The effect on the segments -/

/-- A change to the slot of a mapped segment shows in that segment only. -/
theorem contents?_modify {m : Memory} {k : Nat} {words : Array Word}
    (mapped : m.contents? k = some words) {change : Slot → Slot}
    (keeps : (change { words, mapped := true }).mapped = true) (i : Nat) :
    contents? { m with slots := m.slots.modify k change } i =
      if i = k then some (change { words, mapped := true }).words else m.contents? i := by
  simp only [contents?, Array.getElem?_modify]
  by_cases h : i = k
  · rw [if_pos h.symm, if_pos h, h, contents?_eq_some_iff.mp mapped, Option.map_some,
      Option.filter_some, if_pos keeps, Option.map_some]
  · rw [if_neg (Ne.symm h), if_neg h]

/-- Writing replaces one word of one segment. -/
theorem contents?_write {m : Memory} {id offset : Word} {words : Array Word} (word : Word)
    (mapped : m.segment? id = some words) (within : offset.toNat < words.size) (i : Nat) :
    (m.write id offset word).2.contents? i =
      if i = id.toNat then some (words.setIfInBounds offset.toNat word)
      else m.contents? i := by
  obtain ⟨_, -, -, granted⟩ | ⟨beyond, -⟩ := m.write_cases id offset word
  · rw [granted]
    exact contents?_modify mapped rfl i
  · exact absurd within (Nat.not_lt.mpr (beyond words mapped))

/-- Releasing a segment unmaps it and no other. -/
theorem contents?_release {m : Memory} {id : Word} {words : Array Word} (nonzero : id ≠ 0)
    (mapped : m.segment? id = some words) (i : Nat) :
    (m.release id).2.contents? i = if i = id.toNat then none else m.contents? i := by
  obtain ⟨_, -, -, granted⟩ | ⟨zero | absent, -⟩ := m.release_cases id
  · rw [granted]
    simp only [contents?, Array.getElem?_setIfInBounds]
    by_cases h : i = id.toNat
    · rw [if_pos h, if_pos h.symm]
      split <;> rfl
    · rw [if_neg h, if_neg (Ne.symm h)]
  · exact absurd zero nonzero
  · exact absurd (mapped.symm.trans absent) (Option.some_ne_none words)

/-- Loading a program copies a mapped segment to segment 0 and changes no other. -/
theorem contents?_loadProgram {m : Memory} {id : Word} {program words : Array Word}
    (nonzero : id ≠ 0) (found : m.segment? id = some words)
    (mapped : m.contents? 0 = some program) (i : Nat) :
    (m.loadProgram id).2.contents? i = if i = 0 then some words else m.contents? i := by
  obtain ⟨words', found', granted⟩ | ⟨absent, -⟩ := m.loadProgram_cases nonzero
  · obtain rfl := Option.some.inj (found.symm.trans found')
    rw [granted]
    exact contents?_modify mapped rfl i
  · exact absurd (found.symm.trans absent) (Option.some_ne_none words)

end UniversalMachine.Memory
