import Mathlib
import UniversalMachine.Invocation
import UniversalMachine.Proofs.Process.Stages

/-!
The stages of an invocation. Its files are none of its streams, so that what the stages find is the
same on all streams, and they leave the streams alone.
-/

namespace UniversalMachine.Invocation

open Process (verdict)

abbrev Configured (i : Invocation) (c : Configuration) : Prop :=
  i.process.Configured i.streams c i.streams

abbrev Programmed (i : Invocation) (program : Array Word) : Prop :=
  i.process.Programmed i.streams program i.streams

abbrev Unprepared (i : Invocation) (failure : Failure) : Prop :=
  i.process.Unprepared i.streams failure i.streams

/-- The machine at the start of the run. -/
def machine (i : Invocation) (c : Configuration) (program : Array Word) : Machine Console :=
  i.process.machine c program i.streams

def outcome (result : Except Fault Status × Machine Console) : Outcome Streams where
  failure? := verdict result.1 result.2
  streams := result.2.channel.detach

variable {i : Invocation} {c : Configuration} {program : Array Word}

theorem configured_of_text (text : String) {path : SystemText}
    (named : i.configuration = some path) (found : i.contents path = .ok text.toUTF8.data)
    (read : Configuration.ofText? text = some c) : i.Configured c :=
  .file named (congrArg (·, i.streams) found) (dif_pos text.isValidUTF8) read

theorem programmed_of_image {name path : String} {image : Array UInt8}
    (words : i.words = [.unicode name, .unicode path])
    (found : i.contents (.unicode path) = .ok image) (whole : 4 ∣ image.size)
    (read : Image.decode image = .ok program) : i.Programmed program :=
  .file words (congrArg (·, i.streams) found) whole read

theorem prepared_or_unprepared (i : Invocation) :
    (∃ c program, i.Configured c ∧ i.Programmed program) ∨ ∃ failure, i.Unprepared failure := by
  have apart : ∀ path s, (i.process.contents path s).2 = s := fun _ _ => rfl
  obtain ⟨c, program, _, configured, programmed⟩ | ⟨failure, _, failed⟩ :=
    i.process.prepared_or_unprepared i.streams
  · obtain rfl := configured.streams_eq apart
    obtain rfl := programmed.streams_eq apart
    exact .inl ⟨c, program, configured, programmed⟩
  · obtain rfl := failed.streams_eq apart
    exact .inr ⟨failure, failed⟩

theorem Configured.unique {c' : Configuration} (configured : i.Configured c)
    (configured' : i.Configured c') : c = c' :=
  (Process.Configured.unique configured configured').1

theorem Programmed.unique {program' : Array Word} (programmed : i.Programmed program)
    (programmed' : i.Programmed program') : program = program' :=
  (Process.Programmed.unique programmed programmed').1

theorem loadConfiguration_eq (i : Invocation) (s t : Streams) :
    i.process.loadConfiguration s = ((i.process.loadConfiguration t).1, s) := by
  rw [Process.loadConfiguration, Process.loadConfiguration]
  cases i.process.configuration <;> rfl

/-- What the stages before the run find does not depend on the streams. -/
theorem prepare_eq (i : Invocation) (s t : Streams) :
    i.process.prepare s = ((i.process.prepare t).1, s) := by
  rw [Process.prepare, Process.prepare]
  cases i.process.programPath with
  | error failure => rfl
  | ok path =>
      simp only
      rw [loadConfiguration_eq i s t]
      obtain ⟨_ | _, _⟩ := i.process.loadConfiguration t <;> rfl

theorem run?_of_prepared (configured : i.Configured c) (programmed : i.Programmed program)
    (fuel : ℕ) : i.run? fuel =
      ((i.machine c program).runFor? fuel (c.maxSteps.map UInt64.toNat)).map outcome :=
  i.process.run?_of_prepared (.intro configured programmed) fuel

theorem run?_of_unprepared {failure : Failure} (failed : i.Unprepared failure) (fuel : ℕ) :
    i.run? fuel = some { failure? := some failure, streams := i.streams } :=
  i.process.run?_of_unprepared failed fuel

end UniversalMachine.Invocation
