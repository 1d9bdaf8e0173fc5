import Mathlib
import UniversalMachine.Proofs.Invocation.Transparency
import UniversalMachine.Proofs.Machine.BlockedDevice

/-!
Output that cannot be delivered. On a device that takes no byte, an invocation that outputs a byte
fails. If it waits for the delivery of one, because every byte is delivered at once or because it
reads or halts after its first output, then the refusal is what it reports. Otherwise a fault or
the limit comes first, which is then reported as if the output had been delivered. An invocation
that outputs nothing does not notice its device. All this is about fewer bytes than a console can
hold back.
-/

namespace UniversalMachine.Invocation

open Console (unbuffered)
open Machine (stepped)
open Process (verdict verdict_eq_none_iff)

def withDevice (i : Invocation) (device : Device) : Invocation :=
  { i with device }

def unhindered (i : Invocation) (c : Configuration) (program : Array Word) : Machine Console :=
  (i.withDevice .accepting).machine c program

/-- The invocation waits for the delivery of its output, if it outputs anything on a device that
takes every byte: every byte is delivered at once, or the machine reads a byte or halts after it
has output one. -/
inductive OutputAwaited (i : Invocation) : Prop
  | eachByte {c : Configuration} (configured : i.Configured c)
      (eachByte : c.flushEachOutput = true) : OutputAwaited i
  | before {c : Configuration} {program : Array Word} {j k : ℕ} (configured : i.Configured c)
      (programmed : i.Programmed program)
      (within : ∀ limit, c.maxSteps = some limit → k < limit.toNat) (later : j < k)
      (sends : (stepped^[j] (i.unhindered c program)).sends = true)
      (waits : (stepped^[k] (i.unhindered c program)).receives = true ∨
        (stepped^[k] (i.unhindered c program)).next? = some .halt) : OutputAwaited i

variable {i : Invocation} {c : Configuration} {program : Array Word}

/-! ### Other devices -/

-- The stages before the run do not look at the device.
theorem run?_withDevice_of_prepared (configured : i.Configured c)
    (programmed : i.Programmed program) (device : Device) (fuel : ℕ) :
    (i.withDevice device).run? fuel =
      (((i.unhindered c program).withDevice device).runFor? fuel
        (c.maxSteps.map UInt64.toNat)).map outcome := by
  have prepared := Process.prepare_of_prepared (.intro configured programmed)
  have prepared' := i.prepare_eq (i.withDevice device).streams i.streams
  rw [prepared] at prepared'
  exact Process.run?_of_prepare_ok prepared' fuel

theorem run?_withDevice_of_unprepared {failure : Failure} (failed : i.Unprepared failure)
    (device : Device) (fuel : ℕ) :
    (i.withDevice device).run? fuel =
      some { failure? := some failure, streams := (i.withDevice device).streams } := by
  have unprepared := i.prepare_eq (i.withDevice device).streams i.streams
  rw [Process.prepare_of_unprepared failed] at unprepared
  exact Process.run?_of_prepare_error unprepared fuel

/-- The outcome on a device that takes every byte is that of the run on it. -/
theorem unhindered_of_run? {fuel : ℕ} {o : Outcome Streams} (configured : i.Configured c)
    (programmed : i.Programmed program) (ended : (i.withDevice .accepting).run? fuel = some o) :
    ∃ result, (i.unhindered c program).runFor? fuel (c.maxSteps.map UInt64.toNat) = some result ∧
      o.failure? = verdict result.1 result.2 ∧ o.streams.output = result.2.channel.sent := by
  rw [run?_withDevice_of_prepared configured programmed, Option.map_eq_some_iff] at ended
  obtain ⟨result, ran, rfl⟩ := ended
  obtain ⟨-, rfl⟩ := (Machine.runFor?_eq_some_iff rfl).mp ran
  exact ⟨_, ran, rfl, Console.close_of_accepting (Machine.keeps_accepting.iterate rfl _)⟩

theorem known_of_output {fuel : ℕ} {o : Outcome Streams}
    (ended : (i.withDevice .accepting).run? fuel = some o) (nonempty : o.streams.output ≠ #[]) :
    o.Known := by
  obtain ⟨c, program, configured, programmed⟩ | ⟨failure, failed⟩ := i.prepared_or_unprepared
  · obtain ⟨result, -, judged, -⟩ := unhindered_of_run? configured programmed ended
    exact known_of_verdict judged
  · rw [run?_withDevice_of_unprepared failed] at ended
    obtain rfl := Option.some.inj ended
    exact absurd rfl nonempty

/-! ### Output that is waited for -/

/-- For a run that outputs something, it is a matter of the steps that it takes. -/
theorem outputAwaited_iff {fuel : ℕ} {result : Except Fault Status × Machine Console}
    (configured : i.Configured c) (programmed : i.Programmed program)
    (ran : (i.unhindered c program).runFor? fuel (c.maxSteps.map UInt64.toNat) = some result)
    (nonempty : result.2.channel.sent ≠ #[]) :
    i.OutputAwaited ↔
      ∃ k < (c.maxSteps.map UInt64.toNat).getD fuel, (i.unhindered c program).AwaitsDelivery k := by
  obtain ⟨ends, rfl⟩ := (Machine.runFor?_eq_some_iff rfl).mp ran
  constructor
  · rintro (⟨configured', eachByte⟩ | ⟨configured', programmed', within, later, sends, waits⟩)
    · obtain rfl := configured.unique configured'
      obtain ⟨j, lt, sends⟩ := (Machine.sent_iterate_ne_empty_iff rfl rfl).mp nonempty
      exact ⟨j, lt, .inl ⟨sends, eachByte⟩⟩
    · obtain rfl := configured.unique configured'
      obtain rfl := programmed.unique programmed'
      refine ⟨_, ?_, .inr ⟨waits, _, later, sends⟩⟩
      cases limited : c.maxSteps with
      | some limit => exact within limit limited
      | none =>
          rw [limited] at ends
          by_contra beyond
          have going := Machine.running_of_waits waits
          exact ends rfl (Machine.running_of_iterate (Nat.not_lt.mp beyond) going)
  · rintro ⟨k, lt, ⟨sends, eachByte⟩ | ⟨waits, j, later, sends⟩⟩
    · exact .eachByte configured eachByte
    · refine .before configured programmed (fun limit limited => ?_) later sends waits
      rwa [limited] at lt

/-- To succeed with an output is to wait for its delivery, before the halt at the latest. -/
theorem outputAwaited_of_succeeded {fuel : ℕ} {o : Outcome Streams}
    (ended : (i.withDevice .accepting).run? fuel = some o) (succeeded : o.failure? = none)
    (nonempty : o.streams.output ≠ #[]) : i.OutputAwaited := by
  obtain ⟨c, program, configured, programmed⟩ | ⟨failure, failed⟩ := i.prepared_or_unprepared
  · obtain ⟨result, ran, judged, output⟩ := unhindered_of_run? configured programmed ended
    rw [output] at nonempty
    rw [outputAwaited_iff configured programmed ran nonempty]
    rw [succeeded, eq_comm, verdict_eq_none_iff] at judged
    obtain ⟨-, rfl⟩ := (Machine.runFor?_eq_some_iff rfl).mp ran
    exact Machine.awaits_of_halted rfl rfl rfl (Status.answer_eq_halted_iff.mp judged) nonempty
  · rw [run?_withDevice_of_unprepared failed] at ended
    obtain rfl := Option.some.inj ended
    cases succeeded

/-! ### A device that takes no byte -/

theorem refusing_of_run? {fuel : ℕ} {o : Outcome Streams} (reason : String)
    (ended : (i.withDevice .accepting).run? fuel = some o) (few : o.streams.output.size < 8192) :
    ∃ o', (i.withDevice (.refusing reason)).run? fuel = some o' ∧
      (o.streams.output ≠ #[] → i.OutputAwaited → o'.failure? = some (.run (.io reason))) ∧
      ((o.streams.output ≠ #[] → ¬ i.OutputAwaited) → o'.failure? = o.failure?) := by
  obtain ⟨c, program, configured, programmed⟩ | ⟨failure, failed⟩ := i.prepared_or_unprepared
  · obtain ⟨result, ran, judged, output⟩ := unhindered_of_run? configured programmed ended
    rw [output] at few ⊢
    obtain ⟨stops, goes⟩ := Machine.runFor?_refusing rfl reason rfl rfl ran few
    rw [run?_withDevice_of_prepared configured programmed]
    by_cases awaits : ∃ k < (c.maxSteps.map UInt64.toNat).getD fuel,
        (i.unhindered c program).AwaitsDelivery k
    · obtain ⟨nonempty, m, ran'⟩ := stops awaits
      refine ⟨_, congrArg (Option.map outcome) ran', fun _ _ => rfl, fun unawaited => ?_⟩
      have awaited := (outputAwaited_iff configured programmed ran nonempty).mpr awaits
      exact absurd awaited (unawaited nonempty)
    · obtain ⟨m, ran', same⟩ := goes fun k lt awaited => awaits ⟨k, lt, awaited⟩
      refine ⟨_, congrArg (Option.map outcome) ran', fun nonempty awaited => ?_, fun _ => ?_⟩
      · exact absurd ((outputAwaited_iff configured programmed ran nonempty).mp awaited) awaits
      · rw [judged, outcome, ← verdict_mapChannel unbuffered, same, verdict_mapChannel]
  · have nothing := run?_withDevice_of_unprepared failed
    obtain rfl := Option.some.inj ((nothing .accepting fuel).symm.trans ended)
    exact ⟨_, nothing _ fuel, fun nonempty => absurd rfl nonempty, fun _ => rfl⟩

/-- Output that cannot be delivered is never reported as a success. On a device that is full an
invocation succeeds if and only if it succeeds on one that takes every byte and outputs nothing.
If it outputs nothing, then it reports the same on both. If it outputs something, then it fails; it
reports the refusal of the device if it waits for the delivery of its output, and otherwise what
it reports on a device that takes every byte. -/
theorem undelivered_output_fails {fuel : ℕ} {o : Outcome Streams}
    (ended : (i.withDevice .accepting).run? fuel = some o) (few : o.streams.output.size < 8192) :
    ∃ o', (i.withDevice (.refusing SystemError.noSpace.message)).run? fuel = some o' ∧
      (o'.exitCode = 0 ↔ o.exitCode = 0 ∧ o.streams.output = #[]) ∧
      (o.streams.output = #[] → o'.exitCode = o.exitCode ∧ o'.report = o.report) ∧
      (o.streams.output ≠ #[] → o'.exitCode = 1 ∧
        (i.OutputAwaited →
          o'.report = "um: io error: No space left on device (os error 28)\n") ∧
        (¬ i.OutputAwaited → o'.report = o.report)) := by
  obtain ⟨o', ended', refused, unnoticed⟩ := refusing_of_run? SystemError.noSpace.message ended few
  have same (judged : o'.failure? = o.failure?) :
      o'.exitCode = o.exitCode ∧ o'.report = o.report := by
    rw [Outcome.exitCode, Outcome.report, judged]
    exact ⟨rfl, rfl⟩
  by_cases nonempty : o.streams.output = #[]
  · obtain ⟨code, report⟩ := same (unnoticed fun other => absurd nonempty other)
    refine ⟨o', ended', ?_, fun _ => ⟨code, report⟩, fun other => absurd nonempty other⟩
    rw [code, and_iff_left nonempty]
  · by_cases awaited : i.OutputAwaited
    · obtain ⟨code, report⟩ :=
        Outcome.report_of_failure (fun _ same => by cases same) (refused nonempty awaited)
      refine ⟨o', ended', ?_, fun empty => absurd empty nonempty, fun _ => ⟨code, fun _ => ?_,
        fun other => absurd awaited other⟩⟩
      · simp [code, nonempty]
      · rw [report]
        decide +kernel
    · obtain ⟨code, report⟩ := same (unnoticed fun _ => awaited)
      have known := known_of_output ended nonempty
      have one : o.exitCode = 1 := (Outcome.exitCode_eq_one_iff known).mpr fun succeeded =>
        awaited (outputAwaited_of_succeeded ended succeeded nonempty)
      refine ⟨o', ended', ?_, fun empty => absurd empty nonempty, fun _ => ⟨code.trans one,
        fun other => absurd other awaited, fun _ => report⟩⟩
      simp [code, one]

/-- A program outputs one byte and halts. On a full device the halt is refused; if a limit cuts the
run before the halt, then it is the limit that is reported. -/
theorem full_device_reported :
    let contents (path : SystemText) : Except String (Array UInt8) :=
      if path = .unicode "shout.um" then .ok #[0xD2, 0, 0, 104, 0xA0, 0, 0, 1, 0x70, 0, 0, 0]
      else if path = .unicode "cut.ron" then .ok "(max_steps: Some(2))".toUTF8.data
      else .error SystemError.noSuchFile.message
    let invocation (configuration : Option String) : Invocation :=
      { words := [.unicode "um", .unicode "shout.um"],
        configuration := configuration.map .unicode, complaint := id, panic := SystemText.display,
        contents, device := .refusing SystemError.noSpace.message }
    (∃ o, (invocation none).run? 3 = some o ∧ o.exitCode = 1 ∧
      o.report = "um: io error: No space left on device (os error 28)\n") ∧
    ∃ o, (invocation (some "cut.ron")).run? 0 = some o ∧ o.exitCode = 1 ∧
      o.report = "um: step limit of 2 reached without halting\n" := by
  intro contents invocation
  have halts : ((invocation none).withDevice .accepting).run? 3 =
      some { failure? := none, streams := { output := #[104] } } := by decide +kernel
  have cut : ((invocation (some "cut.ron")).withDevice .accepting).run? 0 =
      some { failure? := some (.stepLimit 2), streams := { output := #[104] } } := by
    decide +kernel
  have awaited : (invocation none).OutputAwaited :=
    outputAwaited_of_succeeded halts rfl (by decide)
  have configured : (invocation (some "cut.ron")).Configured { maxSteps := some 2 } :=
    configured_of_text "(max_steps: Some(2))" rfl rfl (by decide +kernel)
  have programmed : (invocation (some "cut.ron")).Programmed
      #[0xD2000068, 0xA0000001, 0x70000000] :=
    programmed_of_image rfl rfl (by decide) (by decide)
  have unawaited : ¬ (invocation (some "cut.ron")).OutputAwaited := by
    rintro (⟨configured', eachByte⟩ | ⟨configured', programmed', within, later, sends, -⟩)
    · obtain rfl := configured.unique configured'
      cases eachByte
    · obtain rfl := configured.unique configured'
      obtain rfl := programmed.unique programmed'
      -- Only the first step comes before another one, and it is no output.
      obtain rfl := Nat.lt_one_iff.mp (Nat.lt_of_lt_of_le later (Nat.le_of_lt_succ (within 2 rfl)))
      exact absurd sends (by decide)
  obtain ⟨o, ended, -, -, reported⟩ := undelivered_output_fails halts (by decide)
  obtain ⟨code, refused, -⟩ := reported (by decide)
  obtain ⟨o', ended', -, -, reported'⟩ := undelivered_output_fails cut (by decide)
  obtain ⟨code', -, limited⟩ := reported' (by decide)
  exact ⟨⟨o, ended, code, refused awaited⟩, o', ended', code', limited unawaited⟩

end UniversalMachine.Invocation
