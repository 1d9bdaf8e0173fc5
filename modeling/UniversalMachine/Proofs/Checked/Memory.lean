import UniversalMachine.Proofs.Checked.Instruction
import UniversalMachine.Proofs.Memory.Session

/-!
Memory whose partial steps are checked. There is no answer where an index is beyond a table,
where the heap hands out a number whose slot is in use, where the number of a new slot does
not fit into a word, and where a difference is below zero.

The checks succeed because the table is well formed, which the calls before have kept; nothing
at the place of a check shows that it will.
-/

namespace UniversalMachine.Memory

/-- Maps a segment to the slot that the heap hands out, which has to be a vacant one of the
table, or to a new slot, whose number has to be a word. -/
def allocate? (m : Memory) (size : Word) : Option (Word × Memory) :=
  let slot : Slot := { words := Array.replicate size.toNat 0, mapped := true }
  match m.vacant.pop? with
  | some (id, vacant) =>
      if h : id.toNat < m.slots.size then
        if m.slots[id.toNat].mapped then none
        else some (id, { slots := m.slots.set id.toNat slot h, vacant })
      else none
  | none =>
      (fits? 32 m.slots.size).map fun id =>
        (id.toUInt32, { m with slots := m.slots.push slot })

/-- Copies a segment to segment 0. The table is split after its first slot, and the source is
looked up in what follows. -/
def loadProgram? (m : Memory) (id : Word) : Option (Except Fault Unit × Memory) :=
  if id = 0 then some (.ok (), m)
  else if ¬ m.isMapped id then some (.error (.segmentFault id 0), m)
  else
    match m.slots.toList with
    | [] => none
    | program :: rest => do
        let index ← id.toNat.psub 1
        let source ← rest[index]?
        some (.ok (), { m with slots :=
          ({ program with words := source.words } :: rest).toArray })

def mappedCount? (m : Memory) : Option ℕ :=
  m.slots.size.psub m.vacant.size

/-- Answers a call. The calls that have no partial step are answered as they are without
checks. -/
def serve? (m : Memory) (call : Call) : Option (Answer × Memory) :=
  match call with
  | .allocate size => (m.allocate? size).map fun (id, m) => (.id id.toNat, m)
  | .loadProgram id => (m.loadProgram? id).map serve.change
  | .mappedCount => m.mappedCount?.map fun count => (.count count, m)
  | .release _ | .read _ _ | .write _ _ _ | .segment _ | .segmentSize _ | .isMapped _ =>
      some (m.serve call)

/-- The answers to a sequence of calls, and the memory after the last one. -/
def session? : Memory → List Call → Option (List Answer × Memory)
  | m, [] => some ([], m)
  | m, call :: calls =>
      (m.serve? call).bind fun (answer, m) =>
        (session? m calls).map fun (answers, m) => (answer :: answers, m)

section
variable {m : Memory} (wf : m.WellFormed)
include wf

theorem allocate?_eq (few : m.slots.size < 2 ^ 32) (size : Word) :
    m.allocate? size = some (m.allocate size) := by
  cases popped : m.vacant.pop? with
  | none =>
      simp only [allocate?, allocate, popped, fits?_eq few]
      rfl
  | some taken =>
      obtain ⟨id, rest⟩ := taken
      obtain ⟨inTable, vacant⟩ :=
        Array.getElem?_eq_some_iff.mp (slots_of_pop?_eq_some wf popped)
      have unmapped : ¬ m.slots[id.toNat].mapped := by
        rw [vacant]
        exact Bool.false_ne_true
      simp only [allocate?, allocate, popped, dif_pos inTable, if_neg unmapped,
        Array.setIfInBounds_def]

theorem loadProgram?_eq (id : Word) : m.loadProgram? id = some (m.loadProgram id) := by
  by_cases zero : id = 0
  · rw [loadProgram?, if_pos zero, zero, loadProgram_zero]
  · rw [loadProgram?, if_neg zero]
    obtain ⟨words, found, granted⟩ | ⟨unmapped, refused⟩ := m.loadProgram_cases zero
    · have mapped : ¬ ¬ m.isMapped id := not_not.mpr (isMapped_iff.mpr ⟨words, found⟩)
      obtain ⟨program, rest, slots⟩ : ∃ program rest, m.slots.toList = program :: rest := by
        obtain ⟨_, first⟩ := wf.program_mapped
        exact List.exists_cons_of_length_pos (lt_size_of_contents? first)
      obtain ⟨index, succ⟩ : ∃ index, id.toNat = index + 1 :=
        Nat.exists_eq_succ_of_ne_zero (mt Word.toNat_eq_zero_iff.mp zero)
      have source : rest[index]? = some { words, mapped := true } := by
        have entry := contents?_eq_some_iff.mp found
        rwa [← Array.getElem?_toList, slots, succ, List.getElem?_cons_succ] at entry
      have copied : (m.slots.modify 0 fun slot => { slot with words }) =
          ({ program with words } :: rest).toArray := by
        rw [← Array.toList_inj, Array.toList_modify, slots, List.modify_zero_cons]
      rw [if_neg mapped, granted, copied]
      simp only [slots, succ, Nat.psub_eq_sub (Nat.le_add_left 1 index), Nat.add_sub_cancel,
        Option.bind_eq_bind, Option.bind_some, source]
    · have absent : ¬ m.isMapped id := fun mapped => by
        obtain ⟨words, found⟩ := isMapped_iff.mp mapped
        exact Option.some_ne_none words (found.symm.trans unmapped)
      rw [if_pos absent, refused]

theorem mappedCount?_eq : m.mappedCount? = some m.mappedCount := by
  rw [mappedCount?, Nat.psub_eq_some, mappedCount_add_vacant wf]

theorem serve?_eq (few : m.slots.size < 2 ^ 32) (call : Call) :
    m.serve? call = some (m.serve call) := by
  cases call with
  | allocate size =>
      simp only [serve?, allocate?_eq wf few, Option.map_some, serve]
  | loadProgram id =>
      simp only [serve?, loadProgram?_eq wf, Option.map_some, serve]
  | mappedCount =>
      simp only [serve?, mappedCount?_eq wf, Option.map_some, serve]
  | release _ | read _ _ | write _ _ _ | segment _ | segmentSize _ | isMapped _ => rfl

theorem session?_eq (calls : List Call)
    (few : (session serve m calls).2.slots.size < 2 ^ 32) :
    session? m calls = some (session serve m calls) := by
  induction calls generalizing m with
  | nil => rfl
  | cons call calls ih =>
      have fewNow : m.slots.size < 2 ^ 32 :=
        Nat.lt_of_le_of_lt (size_le_session m (call :: calls)) few
      have rest := ih (wf.change (change_serve m call)) few
      simp only [session?, serve?_eq wf fewNow, Option.bind_some, rest, Option.map_some,
        session]

end

end UniversalMachine.Memory
