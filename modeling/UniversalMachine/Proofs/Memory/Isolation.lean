import UniversalMachine.Proofs.Memory.Related
import UniversalMachine.Proofs.Memory.Trace

/-!
Isolation of segments. Some segments are hidden: what is written to them may differ between two
sequences of calls, and nothing else may. Then nothing but the words read from a hidden segment
tells the two sequences apart, as long as no hidden segment is made the program.

A hidden id may be unmapped and mapped again on the way, and may have been made the program
before. Sizes are not hidden; so every call is granted by both memories or refused by both.
-/

namespace UniversalMachine

/-- Two calls that differ at most in the word that they write to a hidden segment. -/
inductive Call.Alike (hidden : Set ℕ) : Call → Call → Prop
  | same (call : Call) : Alike hidden call call
  | write {id : Word} (mem : id.toNat ∈ hidden) (offset word word' : Word) :
      Alike hidden (.write id offset word) (.write id offset word')

/-- Two calls with their answers, which differ at most in the words that are written to a hidden
segment or read from it. -/
inductive ExchangeAlike (hidden : Set ℕ) : Call × Answer → Call × Answer → Prop
  | same (exchange : Call × Answer) : ExchangeAlike hidden exchange exchange
  | write {id : Word} (mem : id.toNat ∈ hidden) (offset word word' : Word) (answer : Answer) :
      ExchangeAlike hidden (.write id offset word, answer) (.write id offset word', answer)
  | read {id : Word} (mem : id.toNat ∈ hidden) (offset : Word) (word word' : ℕ) :
      ExchangeAlike hidden (.read id offset, .word word) (.read id offset, .word word')
  | segment {id : Word} (mem : id.toNat ∈ hidden) {words words' : List ℕ}
      (size : words.length = words'.length) :
      ExchangeAlike hidden (.segment id, .segment (some words))
        (.segment id, .segment (some words'))

namespace Memory

/-- Two memories that differ at most in the words of hidden segments, but not in how many words
those have. -/
def AlikeOutside (hidden : Set ℕ) : Memory → Memory → Prop :=
  Related fun i words words' => words.size = words'.size ∧ (i ∉ hidden → words = words')

theorem AlikeOutside.refl (hidden : Set ℕ) (m : Memory) : m.AlikeOutside hidden m := by
  intro i
  cases m.contents? i with
  | none => exact .none
  | some words => exact .some ⟨rfl, fun _ => rfl⟩

theorem serve_change_fst {result result' : Except Fault Unit × Memory}
    (same : result.1 = result'.1) : (serve.change result).1 = (serve.change result').1 := by
  obtain ⟨answer | answer, m⟩ := result <;> obtain ⟨answer' | answer', m'⟩ := result' <;>
    cases same <;> rfl

namespace AlikeOutside

variable {hidden : Set ℕ} {m m' : Memory} (alike : m.AlikeOutside hidden m')
include alike

theorem contents?_eq {i : ℕ} (shown : i ∉ hidden) : m.contents? i = m'.contents? i := by
  obtain ⟨words, words', found, found', -, same⟩ | ⟨absent, absent'⟩ :=
    Related.contents?_cases alike i
  · rw [found, found', same shown]
  · rw [absent, absent']

theorem segmentSize?_eq (id : Word) : m.segmentSize? id = m'.segmentSize? id := by
  simp only [segmentSize?, segment?]
  obtain ⟨words, words', found, found', size, -⟩ | ⟨absent, absent'⟩ :=
    Related.contents?_cases alike id.toNat
  · rw [found, found', Option.map_some, Option.map_some, size]
  · rw [absent, absent']

theorem exchange_read (id offset : Word) :
    ExchangeAlike hidden (.read id offset, (m.serve (.read id offset)).1)
      (.read id offset, (m'.serve (.read id offset)).1) := by
  obtain ⟨words, words', word, word', ⟨-, same⟩, -, entry, -, entry', granted, granted'⟩ |
      ⟨refused, refused'⟩ :=
    Related.read_cases alike (fun _ _ _ h => h.1) id offset
  · simp only [serve, granted, granted']
    by_cases mem : id.toNat ∈ hidden
    · exact .read mem offset word.toNat word'.toNat
    · rw [same mem, entry'] at entry
      rw [Option.some.inj entry]
      exact .same _
  · simp only [serve, refused, refused']
    exact .same _

theorem exchange_segment (id : Word) :
    ExchangeAlike hidden (.segment id, (m.serve (.segment id)).1)
      (.segment id, (m'.serve (.segment id)).1) := by
  simp only [serve, segment?]
  obtain ⟨words, words', found, found', size, same⟩ | ⟨absent, absent'⟩ :=
    Related.contents?_cases alike id.toNat
  · rw [found, found']
    by_cases mem : id.toNat ∈ hidden
    · refine .segment mem ?_
      rw [length_values, length_values, size]
    · rw [same mem]
      exact .same _
  · rw [absent, absent']
    exact .same _

/-- Two words written at the same offset, which are the same or go to a hidden segment. -/
theorem write (id offset : Word) {word word' : Word}
    (shown : id.toNat ∉ hidden → word = word') :
    (m.serve (.write id offset word)).1 = (m'.serve (.write id offset word')).1 ∧
      (m.serve (.write id offset word)).2.AlikeOutside hidden
        (m'.serve (.write id offset word')).2 := by
  simp only [serve, serve_change_snd]
  obtain ⟨answers, left⟩ := Related.write alike (fun _ _ _ h => h.1) id offset word word'
    fun words words' same => by
      refine ⟨by simpa only [Array.size_setIfInBounds] using same.1, fun notMem => ?_⟩
      rw [same.2 notMem, shown notMem]
  exact ⟨serve_change_fst answers, left⟩

variable (wf : m.WellFormed) (wf' : m'.WellFormed)
include wf wf'

theorem serve {call call' : Call} (calls : call.Alike hidden call')
    (shown : ∀ id, call = .loadProgram id → id ≠ 0 → id.toNat ∉ hidden) :
    ExchangeAlike hidden (call, (m.serve call).1) (call', (m'.serve call').1) ∧
      (m.serve call).2.AlikeOutside hidden (m'.serve call').2 := by
  have same_of {call : Call} (same : (m.serve call).1 = (m'.serve call).1) :
      ExchangeAlike hidden (call, (m.serve call).1) (call, (m'.serve call).1) :=
    same ▸ .same _
  cases calls with
  | write mem offset word word' =>
      obtain ⟨answers, left⟩ := alike.write _ offset fun notMem => absurd mem notMem
      exact ⟨answers ▸ .write mem offset word word' _, left⟩
  | same =>
      cases call with
      | write id offset word =>
          obtain ⟨answers, left⟩ := alike.write id offset fun _ => rfl
          exact ⟨same_of answers, left⟩
      | allocate size =>
          obtain ⟨ids, left⟩ :=
            Related.allocate alike wf wf' (fun _ _ => ⟨rfl, fun _ => rfl⟩) size
          exact ⟨same_of (congrArg (fun id => Answer.id (UInt32.toNat id)) ids), left⟩
      | release id =>
          obtain ⟨answers, left⟩ := Related.release alike id
          refine ⟨same_of (serve_change_fst answers), ?_⟩
          simp only [Memory.serve, serve_change_snd]
          exact left
      | loadProgram id =>
          obtain ⟨answers, left⟩ := Related.loadProgram alike wf id
            fun nonzero words words' same =>
              ⟨same.1, fun _ => same.2 (shown id rfl nonzero)⟩
          refine ⟨same_of (serve_change_fst answers), ?_⟩
          simp only [Memory.serve, serve_change_snd]
          exact left
      | read id offset =>
          refine ⟨alike.exchange_read id offset, ?_⟩
          rwa [serve_read_snd, serve_read_snd]
      | segment id => exact ⟨alike.exchange_segment id, alike⟩
      | segmentSize id =>
          exact ⟨same_of (congrArg Answer.size (alike.segmentSize?_eq id)), alike⟩
      | isMapped id =>
          exact ⟨same_of (congrArg Answer.mapped (Related.isMapped_eq alike id)), alike⟩
      | mappedCount =>
          exact ⟨same_of (congrArg Answer.count (Related.mappedCount_eq alike wf wf')), alike⟩

theorem trace {calls calls' : List Call} (same : List.Forall₂ (Call.Alike hidden) calls calls')
    (shown : ∀ id, .loadProgram id ∈ calls → id ≠ 0 → id.toNat ∉ hidden) :
    List.Forall₂ (ExchangeAlike hidden) (m.trace calls) (m'.trace calls') ∧
      (m.after calls).AlikeOutside hidden (m'.after calls') := by
  induction same generalizing m m' with
  | nil => exact ⟨.nil, alike⟩
  | @cons call call' calls calls' first rest ih =>
      obtain ⟨exchange, left⟩ := alike.serve wf wf' first fun id loads =>
        shown id (loads ▸ List.mem_cons_self)
      obtain ⟨exchanges, last⟩ := ih left (wf.serve call) (wf'.serve call') fun id loads =>
        shown id (List.mem_cons_of_mem _ loads)
      exact ⟨.cons exchange exchanges, last⟩

end AlikeOutside

/-- Two sequences of calls that differ only in the words written to one segment, and do not
make it the program, are answered alike but for what is read from that segment; they leave
the other segments the same, and that one mapped and sized the same. So a segment that was made
the program and the program are each safe from what is later written to the other. -/
theorem segments_isolated {m : Memory} (reached : m.Reachable) (s : Word) :
    (∀ calls calls', List.Forall₂ (Call.Alike {s.toNat}) calls calls' →
      (s ≠ 0 → .loadProgram s ∉ calls) →
      List.Forall₂ (ExchangeAlike {s.toNat}) (m.trace calls) (m.trace calls') ∧
        (∀ i ≠ s.toNat, (m.after calls).contents? i = (m.after calls').contents? i) ∧
        (m.after calls).segmentSize? s = (m.after calls').segmentSize? s) ∧
    ∀ words, s ≠ 0 → m.segment? s = some words →
      (∀ calls : List Call, (∀ call ∈ calls, call.Spares 0) →
        ((m.loadProgram s).2.after calls).segment? 0 = some words) ∧
      ∀ calls : List Call, (∀ call ∈ calls, call.Spares s) →
        ((m.loadProgram s).2.after calls).segment? s = some words := by
  have wf := reached.wellFormed
  constructor
  · intro calls calls' same unloaded
    have shown (id : Word) (loads : .loadProgram id ∈ calls) (nonzero : id ≠ 0) :
        id.toNat ∉ ({s.toNat} : Set ℕ) := by
      intro mem
      obtain rfl := UInt32.toNat_inj.mp (Set.mem_singleton_iff.mp mem)
      exact unloaded nonzero loads
    obtain ⟨traces, left⟩ := (AlikeOutside.refl {s.toNat} m).trace wf wf same shown
    exact ⟨traces, fun i other => left.contents?_eq other, left.segmentSize?_eq s⟩
  · intro words nonzero mapped
    obtain ⟨program, first⟩ := wf.program_mapped
    have copied := contents?_loadProgram nonzero mapped first
    have apart : s.toNat ≠ 0 := mt Word.toNat_eq_zero_iff.mp nonzero
    refine ⟨fun calls spares => ?_, fun calls spares => ?_⟩
    · refine segment?_after_of_spares (wf.loadProgram s) ?_ spares
      exact (copied 0).trans (if_pos rfl)
    · refine segment?_after_of_spares (wf.loadProgram s) ?_ spares
      exact (copied s.toNat).trans ((if_neg apart).trans mapped)

/-- The source of the program is written to, unmapped and mapped again, with one word or with
another. -/
theorem source_of_program_isolated :
    let m := (ofProgram #[7]).after [.allocate 2, .write 1 0 5, .loadProgram 1]
    let calls (word : Word) : List Call :=
      [.write 1 0 word, .read 1 0, .release 1, .allocate 2, .write 1 1 word, .segment 0]
    (List.Forall₂ (ExchangeAlike {(1 : Word).toNat}) (m.trace (calls 8)) (m.trace (calls 9)) ∧
      (m.after (calls 8)).contents? 0 = (m.after (calls 9)).contents? 0 ∧
      (m.after (calls 8)).segmentSize? 1 = (m.after (calls 9)).segmentSize? 1) ∧
    ((m.loadProgram 1).2.after [.write 1 0 6]).segment? 0 = some #[5, 0] ∧
    ((m.loadProgram 1).2.after [.write 0 0 6]).segment? 1 = some #[5, 0] := by
  intro m calls
  have reached : m.Reachable := ⟨_, _, rfl⟩
  obtain ⟨alike, apart⟩ := segments_isolated reached 1
  have mem : (1 : Word).toNat ∈ ({(1 : Word).toNat} : Set ℕ) := rfl
  have same : List.Forall₂ (Call.Alike {(1 : Word).toNat}) (calls 8) (calls 9) :=
    .cons (.write mem 0 8 9) (.cons (.same _) (.cons (.same _) (.cons (.same _)
      (.cons (.write mem 1 8 9) (.cons (.same _) .nil)))))
  obtain ⟨traces, others, size⟩ := alike _ _ same fun _ => by decide
  obtain ⟨program, source⟩ := apart #[5, 0] (by decide) (by decide)
  refine ⟨⟨traces, others 0 (by decide), size⟩, program [.write 1 0 6] ?_,
    source [.write 0 0 6] ?_⟩
  · intro call mem
    obtain rfl := List.mem_singleton.mp mem
    exact (by decide : (1 : Word) ≠ 0)
  · intro call mem
    obtain rfl := List.mem_singleton.mp mem
    exact (by decide : (0 : Word) ≠ 1)

end Memory

end UniversalMachine
