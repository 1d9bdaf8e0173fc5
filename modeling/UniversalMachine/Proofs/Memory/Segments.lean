import Mathlib

/-!
Memory as a finite partial map from ids to lists of words, ids and words being natural
numbers without a bound. Nothing here knows of slots, of vacant ones or of the order in
which ids were given back: a new segment gets the least id outside the map.

An operation that may be refused has no result where it is not defined.
-/

namespace UniversalMachine

abbrev Segments := Finmap fun _ : ℕ => List ℕ

namespace Segments

def ofProgram (program : List ℕ) : Segments :=
  Finmap.singleton 0 program

theorem exists_unmapped (M : Segments) : ∃ id, id ∉ M := by
  obtain ⟨id, unmapped⟩ := Infinite.exists_notMem_finset M.keys
  exact ⟨id, fun mapped => unmapped (Finmap.mem_keys.mpr mapped)⟩

/-- The least id to which no segment is mapped. -/
def leastUnmapped (M : Segments) : ℕ :=
  Nat.find M.exists_unmapped

theorem leastUnmapped_eq {M : Segments} {id : ℕ} (unmapped : id ∉ M)
    (below : ∀ i < id, i ∈ M) : M.leastUnmapped = id :=
  (Nat.find_eq_iff M.exists_unmapped).mpr ⟨unmapped, fun i lt => not_not.mpr (below i lt)⟩

theorem leastUnmapped_le_card (M : Segments) : M.leastUnmapped ≤ M.keys.card := by
  have below : Finset.range M.leastUnmapped ⊆ M.keys := by
    intro i lt
    have mapped := Nat.find_min M.exists_unmapped (Finset.mem_range.mp lt)
    exact Finmap.mem_keys.mpr (not_not.mp mapped)
  simpa only [Finset.card_range] using Finset.card_le_card below

/-- Binds the least unmapped id to that many zeros. -/
def allocate (M : Segments) (size : ℕ) : Segments :=
  M.insert M.leastUnmapped (List.replicate size 0)

/-- Unbinds a mapped id other than 0. -/
def release? (M : Segments) (id : ℕ) : Option Segments :=
  if id ≠ 0 ∧ id ∈ M then some (M.erase id) else none

/-- The word at an offset of a mapped segment, if the offset is below its length. -/
def read? (M : Segments) (id offset : ℕ) : Option ℕ :=
  (M.lookup id).bind (·[offset]?)

/-- Changes the word at an offset of a mapped segment, if the offset is below its length. -/
def write? (M : Segments) (id offset word : ℕ) : Option Segments :=
  (M.lookup id).bind fun words =>
    if offset < words.length then some (M.insert id (words.set offset word)) else none

/-- Binds 0 to the words of a mapped segment. -/
def loadProgram? (M : Segments) (id : ℕ) : Option Segments :=
  if id = 0 then some M else (M.lookup id).map (M.insert 0)

/-! ### Where the operations are undefined -/

theorem write?_eq_none_iff {M : Segments} {id offset word : ℕ} :
    M.write? id offset word = none ↔ M.read? id offset = none := by
  rw [write?, read?]
  cases M.lookup id with
  | none => exact iff_of_true rfl rfl
  | some words =>
      rw [Option.bind_some, Option.bind_some, List.getElem?_eq_none_iff]
      split
      next within => exact iff_of_false nofun (Nat.not_le.mpr within)
      next beyond => exact iff_of_true rfl (Nat.not_lt.mp beyond)

theorem release?_eq_none_iff {M : Segments} {id : ℕ} :
    M.release? id = none ↔ id = 0 ∨ id ∉ M := by
  rw [release?]
  split
  next valid =>
    exact iff_of_false nofun fun invalid =>
      invalid.elim valid.1 fun unmapped => unmapped valid.2
  next invalid =>
    refine iff_of_true rfl ?_
    by_cases zero : id = 0
    · exact .inl zero
    · exact .inr fun mapped => invalid ⟨zero, mapped⟩

theorem loadProgram?_eq_none_iff {M : Segments} {id : ℕ} :
    M.loadProgram? id = none ↔ id ≠ 0 ∧ id ∉ M := by
  rw [loadProgram?]
  split
  next zero => exact iff_of_false nofun fun absent => absent.1 zero
  next nonzero =>
    rw [Option.map_eq_none_iff, Finmap.lookup_eq_none]
    exact (and_iff_right nonzero).symm

end Segments

end UniversalMachine
