import UniversalMachine.Proofs.Memory.Change
import UniversalMachine.Proofs.Memory.Representation

/-!
Sessions: sequences of calls to a memory, with their answers. A memory that starts from a
program gives the same answers as the finite map that starts from it, call by call,
however segments are mapped, unmapped and mapped again.
-/

namespace UniversalMachine

/-- A call to a memory. -/
inductive Call where
  | allocate (size : Word)
  | release (id : Word)
  | read (id offset : Word)
  | write (id offset word : Word)
  | loadProgram (id : Word)
  | segment (id : Word)
  | segmentSize (id : Word)
  | isMapped (id : Word)
  | mappedCount
  deriving DecidableEq

inductive Answer where
  | id (id : ℕ)
  | done
  | word (word : ℕ)
  | segment (words : Option (List ℕ))
  | size (size : Option ℕ)
  | mapped (mapped : Bool)
  | count (count : ℕ)
  | refused (fault : Fault)
  deriving DecidableEq

/-- The answers to a sequence of calls, and the state after the last one. -/
def session {σ : Type} (serve : σ → Call → Answer × σ) : σ → List Call → List Answer × σ
  | s, [] => ([], s)
  | s, call :: calls =>
      ((serve s call).1 :: (session serve (serve s call).2 calls).1,
        (session serve (serve s call).2 calls).2)

/-- The answer of the finite map, which is what the operations are meant to do. -/
def Segments.serve (M : Segments) : Call → Answer × Segments
  | .allocate size => (.id M.leastUnmapped, M.allocate size.toNat)
  | .release id => change (.invalidSegment id) (M.release? id.toNat)
  | .read id offset =>
      match M.read? id.toNat offset.toNat with
      | some word => (.word word, M)
      | none => (.refused (.segmentFault id offset), M)
  | .write id offset word =>
      change (.segmentFault id offset) (M.write? id.toNat offset.toNat word.toNat)
  | .loadProgram id => change (.segmentFault id 0) (M.loadProgram? id.toNat)
  | .segment id => (.segment (M.lookup id.toNat), M)
  | .segmentSize id => (.size ((M.lookup id.toNat).map List.length), M)
  | .isMapped id => (.mapped (decide (id.toNat ∈ M)), M)
  | .mappedCount => (.count M.keys.card, M)
where
  /-- Answers a change that is refused where it is not defined. -/
  change (fault : Fault) : Option Segments → Answer × Segments
    | some M' => (.done, M')
    | none => (.refused fault, M)

namespace Memory

def serve (m : Memory) : Call → Answer × Memory
  | .allocate size => (.id (m.allocate size).1.toNat, (m.allocate size).2)
  | .release id => change (m.release id)
  | .read id offset =>
      match m.read id offset with
      | .ok word => (.word word.toNat, m)
      | .error fault => (.refused fault, m)
  | .write id offset word => change (m.write id offset word)
  | .loadProgram id => change (m.loadProgram id)
  | .segment id => (.segment ((m.segment? id).map values), m)
  | .segmentSize id => (.size (m.segmentSize? id), m)
  | .isMapped id => (.mapped (m.isMapped id), m)
  | .mappedCount => (.count m.mappedCount, m)
where
  change : Except Fault Unit × Memory → Answer × Memory
    | (.ok (), m') => (.done, m')
    | (.error fault, m') => (.refused fault, m')

/-! ### One call -/

theorem serve_change_snd (result : Except Fault Unit × Memory) :
    (serve.change result).2 = result.2 := by
  obtain ⟨answer | answer, m'⟩ := result <;> rfl

theorem serve_read_snd (m : Memory) (id offset : Word) :
    (m.serve (.read id offset)).2 = m := by
  simp only [Memory.serve]
  split <;> rfl

theorem change_serve (m : Memory) (call : Call) : m.Change (m.serve call).2 := by
  cases call with
  | allocate size => exact .allocate size
  | release id => exact serve_change_snd _ ▸ .release id
  | read id offset =>
      rw [serve_read_snd]
      exact .none
  | write id offset word => exact serve_change_snd _ ▸ .write id offset word
  | loadProgram id => exact serve_change_snd _ ▸ .loadProgram id
  | segment _ | segmentSize _ | isMapped _ | mappedCount => exact .none

theorem size_le_session (m : Memory) (calls : List Call) :
    m.slots.size ≤ (session serve m calls).2.slots.size := by
  induction calls generalizing m with
  | nil => exact Nat.le_refl _
  | cons call calls ih => exact Nat.le_trans (change_serve m call).size_le (ih _)

theorem nextSlot_lt_size_allocate {m : Memory} (wf : m.WellFormed) (size : Word) :
    m.nextSlot < (m.allocate size).2.slots.size := by
  apply lt_size_of_contents?
  rw [contents?_allocate wf, if_pos rfl]

/-- The id of a new segment is the number of its slot, as long as that is a word. -/
theorem serve_allocate_fst {m : Memory} (wf : m.WellFormed) {size : Word}
    (few : (m.allocate size).2.slots.size < 2 ^ 32) :
    (m.serve (.allocate size)).1 = .id m.nextSlot := by
  have fits := Nat.lt_trans (nextSlot_lt_size_allocate wf size) few
  rw [serve, allocate_fst]
  exact congrArg Answer.id (UInt32.toNat_ofNat_of_lt' fits)

theorem Agrees.serve {m : Memory} {M : Segments} {fault : Fault}
    {result : Except Fault Unit × Memory} {change : Option Segments}
    (h : m.Agrees fault result change) (represents : m.Represents M) :
    (serve.change result).1 = (Segments.serve.change M fault change).1 ∧
      (serve.change result).2.Represents (Segments.serve.change M fault change).2 := by
  obtain ⟨M', granted, rfl, represents'⟩ | ⟨rfl, rfl⟩ := h
  · obtain ⟨answer, m'⟩ := result
    obtain rfl : answer = .ok () := granted
    exact ⟨rfl, represents'⟩
  · exact ⟨rfl, represents⟩

theorem Represents.serve {m : Memory} {M : Segments} (h : m.Represents M)
    (wf : m.WellFormed) (call : Call) (few : (m.serve call).2.slots.size < 2 ^ 32) :
    (m.serve call).1 = (M.serve call).1 ∧
      (m.serve call).2.Represents (M.serve call).2 := by
  cases call with
  | allocate size =>
      have fits := Nat.lt_trans (nextSlot_lt_size_allocate wf size) few
      exact ⟨congrArg Answer.id (h.allocate_fst wf size fits), h.allocate wf size⟩
  | release id => exact (h.release id).serve h
  | read id offset =>
      simp only [Memory.serve, Segments.serve]
      obtain ⟨word, found, found'⟩ | ⟨absent, absent'⟩ := h.read_cases id offset
      · rw [found, found']
        exact ⟨rfl, h⟩
      · rw [absent, absent']
        exact ⟨rfl, h⟩
  | write id offset word => exact (h.write id offset word).serve h
  | loadProgram id => exact (h.loadProgram wf id).serve h
  | segment id => exact ⟨congrArg Answer.segment (h id.toNat).symm, h⟩
  | segmentSize id =>
      refine ⟨congrArg Answer.size ?_, h⟩
      rw [h, segmentSize?, segment?, Option.map_map]
      exact congrArg (Option.map · _) (funext fun words => (length_values words).symm)
  | isMapped id =>
      refine ⟨congrArg Answer.mapped (Bool.eq_iff_iff.mpr ?_), h⟩
      rw [decide_eq_true_iff, h.mem_iff]
      exact isMapped_iff
  | mappedCount => exact ⟨congrArg Answer.count (h.card_keys wf).symm, h⟩

/-! ### Refused calls -/

theorem serve_change_eq_of_refused {m : Memory} {fault : Fault}
    {result : Except Fault Unit × Memory}
    (settled : (∃ m', result = (.ok (), m')) ∨ ∃ cause, result = (.error cause, m))
    (refused : (serve.change result).1 = .refused fault) : (serve.change result).2 = m := by
  obtain ⟨m', rfl⟩ | ⟨cause, rfl⟩ := settled
  · exact Answer.noConfusion refused
  · rfl

theorem serve_eq_of_refused {m : Memory} {call : Call} {fault : Fault}
    (refused : (m.serve call).1 = .refused fault) : (m.serve call).2 = m := by
  cases call with
  | allocate _ | segment _ | segmentSize _ | isMapped _ | mappedCount =>
      exact Answer.noConfusion refused
  | read id offset => exact m.serve_read_snd id offset
  | write id offset word =>
      refine serve_change_eq_of_refused ?_ refused
      obtain ⟨_, -, -, granted⟩ | ⟨-, rejected⟩ := m.write_cases id offset word
      · exact .inl ⟨_, granted⟩
      · exact .inr ⟨_, rejected⟩
  | release id =>
      refine serve_change_eq_of_refused ?_ refused
      obtain ⟨_, -, -, granted⟩ | ⟨-, rejected⟩ := m.release_cases id
      · exact .inl ⟨_, granted⟩
      · exact .inr ⟨_, rejected⟩
  | loadProgram id =>
      refine serve_change_eq_of_refused ?_ refused
      by_cases zero : id = 0
      · exact .inl ⟨m, zero ▸ m.loadProgram_zero⟩
      · obtain ⟨_, -, granted⟩ | ⟨-, rejected⟩ := m.loadProgram_cases zero
        · exact .inl ⟨_, granted⟩
        · exact .inr ⟨_, rejected⟩

end Memory

theorem Segments.serve_eq_of_refused {M : Segments} {call : Call} {fault : Fault}
    (refused : (M.serve call).1 = .refused fault) : (M.serve call).2 = M := by
  have change_eq (cause : Fault) (result : Option Segments)
      (h : (serve.change M cause result).1 = .refused fault) :
      (serve.change M cause result).2 = M := by
    cases result with
    | none => rfl
    | some M' => exact Answer.noConfusion h
  cases call with
  | allocate _ | segment _ | segmentSize _ | isMapped _ | mappedCount =>
      exact Answer.noConfusion refused
  | read id offset =>
      simp only [serve]
      split <;> rfl
  | release _ | write _ _ _ | loadProgram _ => exact change_eq _ _ refused

/-! ### Sessions -/

namespace Memory

theorem represents_session {m : Memory} {M : Segments} (h : m.Represents M)
    (wf : m.WellFormed) (calls : List Call)
    (few : (session serve m calls).2.slots.size < 2 ^ 32) :
    (session serve m calls).1 = (session Segments.serve M calls).1 ∧
      (session serve m calls).2.Represents (session Segments.serve M calls).2 ∧
      (session serve m calls).2.WellFormed := by
  induction calls generalizing m M with
  | nil => exact ⟨rfl, h, wf⟩
  | cons call calls ih =>
      -- The table only grows, so the bound at the end holds after this call.
      have fewNow : (m.serve call).2.slots.size < 2 ^ 32 :=
        Nat.lt_of_le_of_lt (size_le_session _ calls) few
      obtain ⟨answer, represents⟩ := h.serve wf call fewNow
      obtain ⟨answers, rest⟩ := ih represents (wf.change (change_serve m call)) few
      exact ⟨congrArg₂ List.cons answer answers, rest⟩

/-- A memory answers every sequence of calls as the finite map does and represents that
map afterwards. A call that is then refused is refused by both and changes neither. -/
theorem session_agrees_with_map {program : Array Word} {calls : List Call}
    {answers : List Answer} {m : Memory}
    (served : session serve (.ofProgram program) calls = (answers, m))
    (few : m.slots.size < 2 ^ 32) :
    ∃ M, session Segments.serve (.ofProgram (values program)) calls = (answers, M) ∧
      m.Represents M ∧
      ∀ call fault, (m.serve call).1 = .refused fault →
        m.serve call = (.refused fault, m) ∧ M.serve call = (.refused fault, M) := by
  obtain ⟨rfl, rfl⟩ := Prod.mk.inj served.symm
  obtain ⟨same, represents, wf⟩ :=
    represents_session (represents_ofProgram program) (wellFormed_ofProgram program) calls few
  refine ⟨_, Prod.ext same.symm rfl, represents, fun call fault refused => ?_⟩
  have unchanged := serve_eq_of_refused refused
  have refused' := (represents.serve wf call (by rwa [unchanged])).1.symm.trans refused
  exact ⟨Prod.ext refused unchanged,
    Prod.ext refused' (Segments.serve_eq_of_refused refused')⟩

/-- An id that was given back is handed out again, with zeros for the words it had. -/
theorem recycled_id_agrees_with_map :
    let calls : List Call := [.allocate 2, .allocate 3, .write 1 0 9, .release 1, .release 1,
      .read 1 0, .allocate 1, .read 1 0, .loadProgram 2, .segment 0, .mappedCount]
    let answers : List Answer := [.id 1, .id 2, .done, .done, .refused (.invalidSegment 1),
      .refused (.segmentFault 1 0), .id 1, .word 0, .done, .segment (some [0, 0, 0]), .count 3]
    ∃ m M, session serve (.ofProgram #[7]) calls = (answers, m) ∧ m.slots.size < 2 ^ 32 ∧
      session Segments.serve (.ofProgram (values #[7])) calls = (answers, M) ∧
      m.Represents M := by
  intro calls answers
  have served : session serve (.ofProgram #[7]) calls =
      (answers, (session serve (.ofProgram #[7]) calls).2) := Prod.ext (by decide) rfl
  have few : (session serve (.ofProgram #[7]) calls).2.slots.size < 2 ^ 32 := by decide
  obtain ⟨M, agrees, represents, -⟩ := session_agrees_with_map served few
  exact ⟨_, M, served, few, agrees, represents⟩

end Memory

end UniversalMachine
