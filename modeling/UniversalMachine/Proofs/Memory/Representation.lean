import UniversalMachine.Proofs.Memory.Segments
import UniversalMachine.Proofs.Memory.WellFormed

/-!
The segment table represents a finite partial map, and each operation on it does what the
operation of that name does to the map. An id is a word, so a mapping agrees with that
of the map only while the number of the slot fits into one.
-/

namespace UniversalMachine.Memory

def values (words : Array Word) : List ℕ :=
  words.toList.map UInt32.toNat

theorem length_values (words : Array Word) : (values words).length = words.size := by
  rw [values, List.length_map, Array.length_toList]

theorem getElem?_values (words : Array Word) (i : ℕ) :
    (values words)[i]? = words[i]?.map UInt32.toNat := by
  rw [values, List.getElem?_map, Array.getElem?_toList]

theorem values_setIfInBounds (words : Array Word) (i : ℕ) (word : Word) :
    values (words.setIfInBounds i word) = (values words).set i word.toNat := by
  rw [values, Array.toList_setIfInBounds, List.map_set, values]

theorem values_replicate_zero (size : ℕ) :
    values (Array.replicate size 0) = List.replicate size 0 := by
  rw [values, Array.toList_replicate, List.map_replicate, UInt32.toNat_zero]

/-- Every id has the same words in the table and in the map, or none in both. -/
def Represents (m : Memory) (M : Segments) : Prop :=
  ∀ i : ℕ, M.lookup i = (m.contents? i).map values

theorem represents_ofProgram (program : Array Word) :
    (ofProgram program).Represents (Segments.ofProgram (values program)) := by
  intro i
  rw [contents?_ofProgram, Segments.ofProgram]
  by_cases zero : i = 0
  · rw [zero, if_pos rfl, Finmap.lookup_singleton_eq, Option.map_some]
  · rw [if_neg zero, Option.map_none, Finmap.lookup_eq_none, Finmap.mem_singleton]
    exact zero

/-- A change that is granted exactly where the map defines it, and is otherwise refused
by the given fault and leaves the memory alone. -/
def Agrees (m : Memory) (fault : Fault) (result : Except Fault Unit × Memory)
    (change : Option Segments) : Prop :=
  (∃ M', result.1 = .ok () ∧ change = some M' ∧ result.2.Represents M') ∨
    result = (.error fault, m) ∧ change = none

namespace Represents

variable {m : Memory} {M : Segments} (h : m.Represents M)
include h

theorem mem_iff {i : ℕ} : i ∈ M ↔ ∃ words, m.contents? i = some words := by
  rw [← Finmap.lookup_isSome, h, Option.isSome_map, Option.isSome_iff_exists]

theorem keys_eq : M.keys = m.mappedIds := by
  ext i
  rw [Finmap.mem_keys, h.mem_iff, mem_mappedIds]

theorem card_keys (wf : m.WellFormed) : M.keys.card = m.mappedCount := by
  rw [h.keys_eq, card_mappedIds wf]

theorem leastUnmapped_eq (wf : m.WellFormed) : M.leastUnmapped = m.nextSlot := by
  apply Segments.leastUnmapped_eq
  · rw [h.mem_iff, contents?_nextSlot wf]
    exact fun ⟨_, mapped⟩ => Option.some_ne_none _ mapped.symm
  · intro i lt
    exact h.mem_iff.mpr (mapped_of_lt_nextSlot wf lt)

theorem allocate (wf : m.WellFormed) (size : Word) :
    (m.allocate size).2.Represents (M.allocate size.toNat) := by
  intro i
  rw [contents?_allocate wf, Segments.allocate, h.leastUnmapped_eq wf]
  by_cases next : i = m.nextSlot
  · rw [if_pos next, next, Finmap.lookup_insert, Option.map_some, values_replicate_zero]
  · rw [if_neg next, Finmap.lookup_insert_of_ne M next, h i]

theorem allocate_fst (wf : m.WellFormed) (size : Word) (fits : m.nextSlot < 2 ^ 32) :
    (m.allocate size).1.toNat = M.leastUnmapped := by
  rw [Memory.allocate_fst, h.leastUnmapped_eq wf]
  exact UInt32.toNat_ofNat_of_lt' fits

theorem read? (id offset : Word) :
    M.read? id.toNat offset.toNat =
      ((m.segment? id).bind (·[offset.toNat]?)).map UInt32.toNat := by
  rw [Segments.read?, h, segment?]
  cases m.contents? id.toNat with
  | none => rfl
  | some words => exact getElem?_values words offset.toNat

/-- Reading yields the same word, or is refused exactly where the map has none. -/
theorem read_cases (id offset : Word) :
    (∃ word, m.read id offset = .ok word ∧ M.read? id.toNat offset.toNat = some word.toNat) ∨
      m.read id offset = .error (.segmentFault id offset) ∧
        M.read? id.toNat offset.toNat = none := by
  rw [h.read?, Memory.read]
  cases (m.segment? id).bind (·[offset.toNat]?) with
  | none => exact .inr ⟨rfl, rfl⟩
  | some word => exact .inl ⟨word, rfl, rfl⟩

theorem lookup_eq_some {id : Word} {words : Array Word} (mapped : m.segment? id = some words) :
    M.lookup id.toNat = some (values words) := by
  rw [h, show m.contents? id.toNat = some words from mapped, Option.map_some]

theorem lookup_eq_none {id : Word} (unmapped : m.segment? id = none) :
    M.lookup id.toNat = none := by
  rw [h, show m.contents? id.toNat = none from unmapped, Option.map_none]

theorem write (id offset word : Word) :
    m.Agrees (.segmentFault id offset) (m.write id offset word)
      (M.write? id.toNat offset.toNat word.toNat) := by
  rw [Segments.write?]
  obtain ⟨words, mapped, within, granted⟩ | ⟨beyond, refused⟩ :=
    m.write_cases id offset word
  · refine .inl ⟨M.insert id.toNat ((values words).set offset.toNat word.toNat),
      congrArg Prod.fst granted, ?_, fun i => ?_⟩
    · rw [h.lookup_eq_some mapped, Option.bind_some, length_values, if_pos within]
    · rw [contents?_write word mapped within]
      by_cases same : i = id.toNat
      · rw [if_pos same, same, Finmap.lookup_insert, Option.map_some, values_setIfInBounds]
      · rw [if_neg same, Finmap.lookup_insert_of_ne M same, h i]
  · refine .inr ⟨refused, ?_⟩
    cases found : m.segment? id with
    | none => rw [h.lookup_eq_none found, Option.bind_none]
    | some words =>
        rw [h.lookup_eq_some found, Option.bind_some, length_values,
          if_neg (Nat.not_lt.mpr (beyond words found))]

theorem release (id : Word) :
    m.Agrees (.invalidSegment id) (m.release id) (M.release? id.toNat) := by
  have defined_iff : id.toNat ≠ 0 ∧ id.toNat ∈ M ↔
      id ≠ 0 ∧ ∃ words, m.segment? id = some words :=
    and_congr (not_congr Word.toNat_eq_zero_iff) h.mem_iff
  rw [Segments.release?]
  obtain ⟨words, nonzero, mapped, granted⟩ | ⟨invalid, refused⟩ := m.release_cases id
  · have defined := defined_iff.mpr ⟨nonzero, words, mapped⟩
    refine .inl ⟨M.erase id.toNat,
      congrArg Prod.fst granted, if_pos defined, fun i => ?_⟩
    rw [contents?_release nonzero mapped]
    by_cases same : i = id.toNat
    · rw [if_pos same, same, Finmap.lookup_erase, Option.map_none]
    · rw [if_neg same, Finmap.lookup_erase_ne same, h i]
  · refine .inr ⟨refused, if_neg fun defined => ?_⟩
    obtain ⟨nonzero, words, mapped⟩ := defined_iff.mp defined
    have unmapped := invalid.resolve_left nonzero
    exact Option.some_ne_none words (mapped.symm.trans unmapped)

theorem loadProgram (wf : m.WellFormed) (id : Word) :
    m.Agrees (.segmentFault id 0) (m.loadProgram id) (M.loadProgram? id.toNat) := by
  simp only [Segments.loadProgram?, Word.toNat_eq_zero_iff]
  by_cases zero : id = 0
  · rw [zero, loadProgram_zero, if_pos rfl]
    exact .inl ⟨M, rfl, rfl, h⟩
  · rw [if_neg zero]
    obtain ⟨words, found, granted⟩ | ⟨absent, refused⟩ := m.loadProgram_cases zero
    · obtain ⟨program, mapped⟩ := wf.program_mapped
      refine .inl ⟨M.insert 0 (values words),
        congrArg Prod.fst granted, ?_, fun i => ?_⟩
      · rw [h.lookup_eq_some found, Option.map_some]
      · rw [contents?_loadProgram zero found mapped]
        by_cases same : i = 0
        · rw [if_pos same, same, Finmap.lookup_insert, Option.map_some]
        · rw [if_neg same, Finmap.lookup_insert_of_ne M same, h i]
    · refine .inr ⟨refused, ?_⟩
      rw [h.lookup_eq_none absent, Option.map_none]

end Represents

end UniversalMachine.Memory
