import UniversalMachine.Proofs.Instruction.Text
import UniversalMachine.Proofs.Memory.Related

/-!
Two memories that differ only in the program, and there only in what the assembly text of the
words does not show. Each operation is then granted by both or refused by both, and leaves
two such memories. The one thing that tells them apart is to read a word of the program.
-/

namespace UniversalMachine

/-- The texts of the words of a program. -/
def Disassembly.texts (ws : Array Word) : Array String :=
  ws.map fun w => (Instruction.decode w).text

theorem Disassembly.size_texts (ws : Array Word) : (texts ws).size = ws.size :=
  Array.size_map

theorem Disassembly.texts_setIfInBounds (ws : Array Word) (i : ℕ) (w : Word) :
    texts (ws.setIfInBounds i w) =
      (texts ws).setIfInBounds i (Instruction.decode w).text :=
  Array.map_setIfInBounds

namespace Memory

open Disassembly (texts)

/-! ### Segments with the same text -/

/-- The same words, or programs with the same text. -/
def SameText (i : ℕ) (words words' : Array Word) : Prop :=
  texts words = texts words' ∧ (i ≠ 0 → words = words')

theorem SameText.refl (i : ℕ) (words : Array Word) : SameText i words words :=
  ⟨rfl, fun _ => rfl⟩

theorem SameText.size_eq (i : ℕ) (words words' : Array Word) (same : SameText i words words') :
    words.size = words'.size := by
  rw [← Disassembly.size_texts, same.1, Disassembly.size_texts]

theorem SameText.setIfInBounds {i : ℕ} {words words' : Array Word}
    (same : SameText i words words') (k : ℕ) (word : Word) :
    SameText i (words.setIfInBounds k word) (words'.setIfInBounds k word) := by
  refine ⟨?_, fun nonzero => by rw [same.2 nonzero]⟩
  rw [Disassembly.texts_setIfInBounds, Disassembly.texts_setIfInBounds, same.1]

/-! ### Memories with the same text -/

/-- What the segments with one number hold in two memories: the same if the number is not
zero, and programs with the same text if it is. -/
structure Alike (m m' : Memory) : Prop where
  program : ∃ words words', m.contents? 0 = some words ∧ m'.contents? 0 = some words' ∧
    texts words = texts words'
  others : ∀ i ≠ 0, m.contents? i = m'.contents? i

namespace Alike

theorem of_texts {program program' : Array Word} (same : texts program = texts program') :
    (ofProgram program).Alike (ofProgram program') where
  program := ⟨program, program', rfl, rfl, same⟩
  others i nonzero := by
    rw [contents?_ofProgram, contents?_ofProgram, if_neg nonzero, if_neg nonzero]

variable {m m' : Memory}

theorem of_related (wf : m.WellFormed) (related : Related SameText m m') : m.Alike m' where
  program := by
    obtain ⟨program, first⟩ := wf.program_mapped
    obtain ⟨words, words', found, found', same, -⟩ | ⟨absent, -⟩ := related.contents?_cases 0
    · exact ⟨words, words', found, found', same⟩
    · cases first.symm.trans absent
  others i nonzero := by
    obtain ⟨words, words', found, found', -, same⟩ | ⟨absent, absent'⟩ :=
      related.contents?_cases i
    · rw [found, found', same nonzero]
    · rw [absent, absent']

variable (alike : m.Alike m')
include alike

theorem related : Related SameText m m' := by
  intro i
  by_cases zero : i = 0
  · obtain ⟨words, words', mapped, mapped', same⟩ := alike.program
    rw [zero, mapped, mapped']
    exact .some ⟨same, fun nonzero => absurd rfl nonzero⟩
  · rw [← alike.others i zero]
    cases m.contents? i with
    | none => exact .none
    | some words => exact .some (.refl i words)

theorem read_eq {id : Word} (nonzero : id ≠ 0) (offset : Word) :
    m.read id offset = m'.read id offset := by
  have same : m.segment? id = m'.segment? id :=
    alike.others id.toNat fun zero => nonzero (Word.toNat_eq_zero_iff.mp zero)
  rw [read, read, same]

/-- A fetch from the one memory goes as it goes from the other, to a word with the same
text. -/
theorem fetch_cases (offset : Word) :
    (∃ word word', m.read 0 offset = .ok word ∧ m'.read 0 offset = .ok word' ∧
        (Instruction.decode word).text = (Instruction.decode word').text) ∨
      m.read 0 offset = .error (.segmentFault 0 offset) ∧
        m'.read 0 offset = .error (.segmentFault 0 offset) := by
  refine (alike.related.read_cases SameText.size_eq 0 offset).imp_left ?_
  rintro ⟨words, words', word, word', ⟨same, -⟩, -, entry, -, entry', granted, granted'⟩
  have texts_eq := congrArg (·[offset.toNat]?) same
  simp only [texts, Array.getElem?_map, entry, entry', Option.map_some,
    Option.some.injEq] at texts_eq
  exact ⟨word, word', granted, granted', texts_eq⟩

variable (wf : m.WellFormed)
include wf

theorem write (id offset word : Word) :
    (m.write id offset word).1 = (m'.write id offset word).1 ∧
      (m.write id offset word).2.Alike (m'.write id offset word).2 :=
  (alike.related.write SameText.size_eq id offset word word fun _ _ same =>
      same.setIfInBounds _ word).imp_right
    (of_related (wf.write id offset word))

theorem release (id : Word) :
    (m.release id).1 = (m'.release id).1 ∧ (m.release id).2.Alike (m'.release id).2 :=
  (alike.related.release id).imp_right (of_related (wf.release id))

theorem loadProgram (id : Word) :
    (m.loadProgram id).1 = (m'.loadProgram id).1 ∧
      (m.loadProgram id).2.Alike (m'.loadProgram id).2 :=
  (alike.related.loadProgram wf id fun _ _ _ same =>
      ⟨same.1, fun nonzero => absurd rfl nonzero⟩).imp_right
    (of_related (wf.loadProgram id))

theorem allocate (wf' : m'.WellFormed) (size : Word) :
    (m.allocate size).1 = (m'.allocate size).1 ∧
      (m.allocate size).2.Alike (m'.allocate size).2 :=
  (alike.related.allocate wf wf' SameText.refl size).imp_right (of_related (wf.allocate size))

end Alike

end Memory

end UniversalMachine
