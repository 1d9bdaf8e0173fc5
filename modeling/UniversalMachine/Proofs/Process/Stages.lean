import Mathlib
import UniversalMachine.Process
import UniversalMachine.Proofs.Image.Codec
import UniversalMachine.Proofs.Machine.StepLimit

/-!
The stages of a process before its run. What a stage finds, why it fails, and what it leaves of
the streams is said of the words and the files alone, each stage for itself; that the stages are
gone through in order, and that nothing is asked of the stages behind one that fails, is then a
statement about the process.
-/

namespace UniversalMachine.Process

variable {σ χ : Type}

/-- The configuration of a process: the default if no file is named, and otherwise what the text
in the file stands for. -/
inductive Configured (p : Process σ χ) (s : σ) : Configuration → σ → Prop
  | default (unnamed : p.configuration = none) : Configured p s {} s
  | file {path : SystemText} {text : String} {bytes : Array UInt8} {c : Configuration} {s' : σ}
      (named : p.configuration = some path) (found : p.contents path s = (.ok bytes, s'))
      (decoded : String.fromUTF8? ⟨bytes⟩ = some text)
      (read : Configuration.ofText? text = some c) : Configured p s c s'

/-- Why a process has no configuration. -/
inductive Misconfigured (p : Process σ χ) (s : σ) : Configuration.Error → σ → Prop
  | unreadable {path : SystemText} {reason : String} {s' : σ}
      (named : p.configuration = some path) (refused : p.contents path s = (.error reason, s')) :
      Misconfigured p s (.unreadable path.display reason) s'
  | noText {path : SystemText} {bytes : Array UInt8} {s' : σ}
      (named : p.configuration = some path) (found : p.contents path s = (.ok bytes, s'))
      (invalid : String.fromUTF8? ⟨bytes⟩ = none) :
      Misconfigured p s (.unreadable path.display "stream did not contain valid UTF-8") s'
  | malformed {path : SystemText} {text : String} {bytes : Array UInt8} {s' : σ}
      (named : p.configuration = some path) (found : p.contents path s = (.ok bytes, s'))
      (decoded : String.fromUTF8? ⟨bytes⟩ = some text)
      (refused : Configuration.ofText? text = none) :
      Misconfigured p s (.malformed (p.complaint text)) s'

/-- The program of a process: the one in the file that the only argument names. -/
inductive Programmed (p : Process σ χ) (s : σ) : Array Word → σ → Prop
  | file {name path : String} {image : Array UInt8} {program : Array Word} {s' : σ}
      (words : p.words = [.unicode name, .unicode path])
      (found : p.contents (.unicode path) s = (.ok image, s')) (whole : 4 ∣ image.size)
      (read : Image.decode image = .ok program) : Programmed p s program s'

/-- Why there is no program although there is one argument. -/
inductive Misprogrammed (p : Process σ χ) (s : σ) : Fault → σ → Prop
  | unreadable {name path reason : String} {s' : σ}
      (words : p.words = [.unicode name, .unicode path])
      (refused : p.contents (.unicode path) s = (.error reason, s')) :
      Misprogrammed p s (.unreadableProgram path reason) s'
  | torn {name path : String} {image : Array UInt8} {s' : σ}
      (words : p.words = [.unicode name, .unicode path])
      (found : p.contents (.unicode path) s = (.ok image, s')) (torn : ¬ 4 ∣ image.size) :
      Misprogrammed p s (.invalidProgram image.size) s'

/-- A process comes to its run. -/
inductive Prepared (p : Process σ χ) (s : σ) : Configuration → Array Word → σ → Prop
  | intro {c : Configuration} {program : Array Word} {s' s'' : σ}
      (configured : p.Configured s c s') (programmed : p.Programmed s' program s'') :
      Prepared p s c program s''

/-- Why a process does not come to its run: the failure of the first stage that fails, with
nothing said of the stages behind it. -/
inductive Unprepared (p : Process σ χ) (s : σ) : Failure → σ → Prop
  | panic {texts : List String} {bytes : List UInt8}
      {invalid : String.fromUTF8? ⟨bytes.toArray⟩ = none} {more : List SystemText}
      (words : p.words = texts.map .unicode ++ .other bytes invalid :: more) :
      Unprepared p s (.panic (p.panic (.other bytes invalid))) s
  | usage {texts : List String} (words : p.words = texts.map .unicode)
      (wrong : texts.length ≠ 2) : Unprepared p s (.usage (texts.head?.getD "um")) s
  | configuration {name path : String} {error : Configuration.Error} {s' : σ}
      (words : p.words = [.unicode name, .unicode path])
      (failed : p.Misconfigured s error s') : Unprepared p s (.configuration error) s'
  | program {c : Configuration} {fault : Fault} {s' s'' : σ} (configured : p.Configured s c s')
      (failed : p.Misprogrammed s' fault s'') : Unprepared p s (.program fault) s''

variable {p : Process σ χ} {s s' s'' : σ} {c : Configuration} {program : Array Word}

/-! ### Configuration -/

theorem loadConfiguration_of_configured (configured : p.Configured s c s') :
    p.loadConfiguration s = (.ok c, s') := by
  cases configured with
  | default unnamed => simp only [loadConfiguration, unnamed]
  | file named found decoded read =>
      simp only [loadConfiguration, named, found, Configuration.load, decoded, read,
        Except.mapError]

theorem loadConfiguration_of_misconfigured {error : Configuration.Error}
    (failed : p.Misconfigured s error s') :
    p.loadConfiguration s = (.error (.configuration error), s') := by
  cases failed with
  | unreadable named refused =>
      simp only [loadConfiguration, named, refused, Configuration.load, Except.mapError]
  | noText named found invalid =>
      simp only [loadConfiguration, named, found, Configuration.load, invalid, Except.mapError]
      rfl
  | malformed named found decoded refused =>
      simp only [loadConfiguration, named, found, Configuration.load, decoded, refused,
        Except.mapError]

theorem configured_or_misconfigured (p : Process σ χ) (s : σ) :
    (∃ c s', p.Configured s c s') ∨ ∃ error s', p.Misconfigured s error s' := by
  cases named : p.configuration with
  | none => exact .inl ⟨_, _, .default named⟩
  | some path =>
      cases found : p.contents path s with
      | mk answer s' =>
          cases answer with
          | error reason => exact .inr ⟨_, _, .unreadable named found⟩
          | ok bytes =>
              cases decoded : String.fromUTF8? ⟨bytes⟩ with
              | none => exact .inr ⟨_, _, .noText named found decoded⟩
              | some text =>
                  cases read : Configuration.ofText? text with
                  | none => exact .inr ⟨_, _, .malformed named found decoded read⟩
                  | some c => exact .inl ⟨_, _, .file named found decoded read⟩

theorem Configured.unique {c' : Configuration} (configured : p.Configured s c s')
    (configured' : p.Configured s c' s'') : c = c' ∧ s' = s'' := by
  have loaded := loadConfiguration_of_configured configured
  rw [loadConfiguration_of_configured configured'] at loaded
  obtain ⟨same, left⟩ := Prod.mk.inj loaded
  exact ⟨(Except.ok.inj same).symm, left.symm⟩

/-! ### Program -/

theorem programPath_of_words {name path : String}
    (words : p.words = [.unicode name, .unicode path]) : p.programPath = .ok path := by
  rw [Command.programPath, words]
  rfl

theorem loadProgram_of_programmed (programmed : p.Programmed s program s') :
    ∃ path, p.programPath = .ok path ∧ p.loadProgram path s = (.ok program, s') := by
  obtain ⟨words, found, -, read⟩ := programmed
  refine ⟨_, programPath_of_words words, ?_⟩
  simp only [loadProgram, found, Image.load, read, Except.mapError]

theorem loadProgram_of_misprogrammed {fault : Fault} (failed : p.Misprogrammed s fault s') :
    ∃ path, p.programPath = .ok path ∧
      p.loadProgram path s = (.error (.program fault), s') := by
  cases failed with
  | unreadable words refused =>
      refine ⟨_, programPath_of_words words, ?_⟩
      simp only [loadProgram, refused, Image.load, Except.mapError]
  | torn words found torn =>
      refine ⟨_, programPath_of_words words, ?_⟩
      simp only [loadProgram, found, Image.load, Image.decode_of_torn torn, Except.mapError]

theorem programmed_or_misprogrammed {name path : String}
    (words : p.words = [.unicode name, .unicode path]) (s : σ) :
    (∃ program s', p.Programmed s program s') ∨ ∃ fault s', p.Misprogrammed s fault s' := by
  cases found : p.contents (.unicode path) s with
  | mk answer s' =>
      cases answer with
      | error reason => exact .inr ⟨_, _, .unreadable words found⟩
      | ok image =>
          by_cases whole : 4 ∣ image.size
          · obtain ⟨program, read⟩ := Image.exists_decode_iff.mpr whole
            exact .inl ⟨_, _, .file words found whole read⟩
          · exact .inr ⟨_, _, .torn words found whole⟩

theorem Programmed.unique {program' : Array Word} (programmed : p.Programmed s program s')
    (programmed' : p.Programmed s program' s'') : program = program' ∧ s' = s'' := by
  obtain ⟨path, argument, loaded⟩ := loadProgram_of_programmed programmed
  obtain ⟨path', argument', loaded'⟩ := loadProgram_of_programmed programmed'
  obtain rfl := Except.ok.inj (argument.symm.trans argument')
  obtain ⟨same, left⟩ := Prod.mk.inj (loaded.symm.trans loaded')
  exact ⟨Except.ok.inj same, left⟩

/-! ### All stages -/

theorem prepare_of_configured {path : String} (argument : p.programPath = .ok path)
    (configured : p.Configured s c s') :
    p.prepare s = Prod.map (Except.map (c, ·)) id (p.loadProgram path s') := by
  simp only [prepare, argument, loadConfiguration_of_configured configured]
  rfl

theorem prepare_of_prepared (prepared : p.Prepared s c program s') :
    p.prepare s = (.ok (c, program), s') := by
  obtain ⟨configured, programmed⟩ := prepared
  obtain ⟨path, argument, loaded⟩ := loadProgram_of_programmed programmed
  rw [prepare_of_configured argument configured, loaded]
  rfl

theorem prepare_of_unprepared {failure : Failure} (failed : p.Unprepared s failure s') :
    p.prepare s = (.error failure, s') := by
  cases failed with
  | panic words =>
      simp only [prepare, Command.programPath, words, SystemText.texts_other]
  | @usage texts words wrong =>
      have none : p.programPath = .error (.usage (texts.head?.getD "um")) := by
        rw [Command.programPath, words, SystemText.texts_unicode]
        rcases texts with - | ⟨name, - | ⟨path, - | ⟨third, more⟩⟩⟩
        · rfl
        · rfl
        · exact absurd rfl wrong
        · rfl
      simp only [prepare, none]
  | configuration words failed =>
      simp only [prepare, programPath_of_words words, loadConfiguration_of_misconfigured failed]
  | program configured failed =>
      obtain ⟨path, argument, loaded⟩ := loadProgram_of_misprogrammed failed
      rw [prepare_of_configured argument configured, loaded]
      rfl

theorem prepared_or_unprepared (p : Process σ χ) (s : σ) :
    (∃ c program s', p.Prepared s c program s') ∨ ∃ failure s', p.Unprepared s failure s' := by
  obtain ⟨texts, words⟩ | ⟨texts, bytes, invalid, more, words⟩ := SystemText.texts_cases p.words
  · by_cases wrong : texts.length = 2
    · obtain ⟨name, path, rfl⟩ := List.length_eq_two.mp wrong
      obtain ⟨c, s', configured⟩ | ⟨error, s', failed⟩ := p.configured_or_misconfigured s
      · obtain ⟨program, s'', programmed⟩ | ⟨fault, s'', failed⟩ :=
          programmed_or_misprogrammed words s'
        · exact .inl ⟨_, _, _, configured, programmed⟩
        · exact .inr ⟨_, _, .program configured failed⟩
      · exact .inr ⟨_, _, .configuration words failed⟩
    · exact .inr ⟨_, _, .usage words wrong⟩
  · exact .inr ⟨_, _, .panic words⟩

/-! ### Files that are none of the streams -/

section
variable (apart : ∀ path s, (p.contents path s).2 = s)
include apart

theorem streams_of_found {path : SystemText} {answer : Except String (Array UInt8)}
    (found : p.contents path s = (answer, s')) : s' = s := by
  rw [← apart path s, found]

theorem Configured.streams_eq (configured : p.Configured s c s') : s' = s := by
  cases configured with
  | default => rfl
  | file _ found => exact streams_of_found apart found

theorem Programmed.streams_eq (programmed : p.Programmed s program s') : s' = s := by
  obtain ⟨_, found, -, -⟩ := programmed
  exact streams_of_found apart found

theorem Unprepared.streams_eq {failure : Failure} (failed : p.Unprepared s failure s') :
    s' = s := by
  cases failed with
  | panic | usage => rfl
  | configuration _ failed =>
      cases failed with
      | unreadable _ found | noText _ found | malformed _ found =>
          exact streams_of_found apart found
  | program configured failed =>
      rw [← configured.streams_eq apart]
      cases failed with
      | unreadable _ found | torn _ found => exact streams_of_found apart found

end

/-! ### The run -/

theorem verdict_eq_none_iff {answer : Except Fault Status} {m : Machine χ} :
    verdict answer m = none ↔ answer = .ok .halted := by
  cases answer with
  | error fault => simp [verdict]
  | ok status => cases status <;> simp [verdict]

variable [Channel χ]

theorem run?_of_prepare_error {failure : Failure} (failed : p.prepare s = (.error failure, s'))
    (fuel : ℕ) : p.run? fuel s = some { failure? := some failure, streams := s' } := by
  rw [run?, start, failed]

theorem run?_of_prepare_ok (prepared : p.prepare s = (.ok (c, program), s')) (fuel : ℕ) :
    p.run? fuel s =
      ((p.machine c program s').runFor? fuel (c.maxSteps.map UInt64.toNat)).map p.outcome := by
  rw [run?, start, prepared]

theorem run?_of_unprepared {failure : Failure} (failed : p.Unprepared s failure s') (fuel : ℕ) :
    p.run? fuel s = some { failure? := some failure, streams := s' } :=
  run?_of_prepare_error (prepare_of_unprepared failed) fuel

theorem run?_of_prepared (prepared : p.Prepared s c program s') (fuel : ℕ) :
    p.run? fuel s =
      ((p.machine c program s').runFor? fuel (c.maxSteps.map UInt64.toNat)).map p.outcome :=
  run?_of_prepare_ok (prepare_of_prepared prepared) fuel

end UniversalMachine.Process
