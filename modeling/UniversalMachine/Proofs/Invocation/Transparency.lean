import Mathlib
import UniversalMachine.Channel.Buffer
import UniversalMachine.Proofs.Invocation.Stages
import UniversalMachine.Proofs.Machine.Delivery
import UniversalMachine.Proofs.Process.ExitStatus

/-!
The command adds nothing to the machine in it. If its device takes every byte, then its output is
what the machine writes to a buffer in memory, however the run ends: what is pending when the
process ends is delivered then. Its exit status and its report tell how that run ended. Whether
output is delivered after every byte makes no difference.
-/

namespace UniversalMachine.Invocation

open Console (unbuffered ofBuffer)
open Process (verdict)

/-- The exit status and the report that tell how a run with a limit ended. -/
inductive Reported (limit : Option UInt64) : Except Fault Status → ℕ → String → Prop
  | halted : Reported limit (.ok .halted) 0 ""
  | fault (fault : Fault) : Reported limit (.error fault) 1 ("um: " ++ fault.message ++ "\n")
  | stepLimit {n : UInt64} (limited : limit = some n) :
      Reported limit (.ok .running) 1 s!"um: step limit of {n.toNat} reached without halting\n"

theorem verdict_mapChannel {χ ω : Type} (f : χ → ω) (answer : Except Fault Status)
    (m : Machine χ) : verdict answer (m.mapChannel f) = verdict answer m := by
  cases answer with
  | error fault => rfl
  | ok status => cases status <;> rfl

/-- The runtime does not end a process that comes to its run. -/
theorem known_of_verdict {χ σ : Type} {answer : Except Fault Status} {m : Machine χ}
    {o : Outcome σ} (judged : o.failure? = verdict answer m) : o.Known := by
  intro report panicked
  rw [judged] at panicked
  match answer with
  | .error _ | .ok .halted | .ok .running | .ok (.faulted _) => cases panicked

theorem reported_of_ran {χ σ : Type} [Channel χ] {program : Array Word} {channel : χ} {fuel : ℕ}
    {limit : Option UInt64} {answer : Except Fault Status} {m : Machine χ} {o : Outcome σ}
    (ran : (Machine.start program channel).runFor? fuel (limit.map UInt64.toNat) =
      some (answer, m))
    (judged : o.failure? = verdict answer m) : Reported limit answer o.exitCode o.report := by
  have known := known_of_verdict judged
  obtain rfl | ⟨fault, rfl⟩ | ⟨n, mapped, rfl, cut⟩ := Machine.runFor?_cases rfl ran
  · rw [Outcome.exitCode_eq_zero_iff.mpr judged, (Outcome.report_eq_empty_iff known).mpr judged]
    exact .halted
  · obtain ⟨code, report⟩ := Outcome.report_of_failure (known.failure judged) judged
    rw [code, report]
    exact .fault fault
  · obtain ⟨allowed, limited, rfl⟩ := Option.map_eq_some_iff.mp mapped
    rw [Process.verdict_of_cut cut] at judged
    rw [(Outcome.report_of_failure (known.failure judged) judged).1,
      (Outcome.report_eq_stepLimit_iff known).mpr judged]
    exact .stepLimit limited

variable {i : Invocation} {c : Configuration} {program : Array Word}

theorem outcome_unbuffered {result : Except Fault Status × Machine Console}
    (accepting : result.2.channel.device = .accepting) :
    outcome (Prod.map id (Machine.mapChannel unbuffered) result) = outcome result := by
  obtain ⟨answer, m⟩ := result
  have closed : m.channel.unbuffered.detach = m.channel.detach := by
    rw [Console.detach, Console.detach, Console.close_of_accepting accepting, accepting,
      Console.close, Console.deliver_unbuffered]
    rfl
  simp only [outcome, Prod.map_apply, id_eq, verdict_mapChannel, Machine.channel_mapChannel,
    closed]

/-- On a device that takes every byte, an invocation is a run on a console that holds nothing
back. -/
theorem run?_eq_unbuffered (configured : i.Configured c) (programmed : i.Programmed program)
    (writable : i.device = .accepting) (fuel : ℕ) :
    i.run? fuel =
      ((Machine.start program
        ({ source := i.source, flushEachOutput := true } : Console)).runFor? fuel
          (c.maxSteps.map UInt64.toNat)).map outcome := by
  have accepting (n : ℕ) :
      (Machine.stepped^[n] (i.machine c program)).channel.device = .accepting :=
    Machine.keeps_accepting.iterate writable n
  have mapped := Machine.runFor?_mapChannel
    (fun n => Machine.carries_of_accepting (accepting n)) fuel (c.maxSteps.map UInt64.toNat)
  have same : (i.machine c program).mapChannel unbuffered =
      Machine.start program { source := i.source, flushEachOutput := true } := rfl
  rw [run?_of_prepared configured programmed, ← same, mapped, Option.map_map]
  refine Option.map_congr fun result ran => ?_
  obtain ⟨ends, rfl⟩ := (Machine.runFor?_eq_some_iff rfl).mp ran
  exact (outcome_unbuffered (accepting _)).symm

theorem run?_eq_buffer {input : List UInt8} (configured : i.Configured c)
    (programmed : i.Programmed program) (stdin : i.source = .bytes input)
    (writable : i.device = .accepting) (fuel : ℕ) :
    i.run? fuel =
      ((Machine.start program ({ input } : Buffer)).runFor? fuel
        (c.maxSteps.map UInt64.toNat)).map fun (answer, m) =>
          { failure? := verdict answer m
            streams := { source := .bytes m.channel.input, output := m.channel.output } } := by
  have mapped := Machine.runFor?_mapChannel
    (m := Machine.start program ({ input } : Buffer)) (fun _ => Machine.carries_ofBuffer _) fuel
    (c.maxSteps.map UInt64.toNat)
  have same : (Machine.start program ({ input } : Buffer)).mapChannel ofBuffer =
      Machine.start program { source := i.source, flushEachOutput := true } := by
    rw [stdin]
    rfl
  rw [run?_eq_unbuffered configured programmed writable, ← same, mapped, Option.map_map]
  refine Option.map_congr fun ⟨answer, m⟩ _ => ?_
  simp only [Function.comp_apply, Prod.map_apply, id_eq, outcome, verdict_mapChannel]
  rfl

/-- Let an invocation have a configuration that can be read, a program file of whole words, any
input, and a device that takes every byte. Then it ends if and only if the run of its program on a
buffer in memory does, its output is what that run writes, and its exit status and its report tell
how that run ended. Whether output is delivered after every byte makes no difference. -/
theorem command_transparent {name path : String} {image : Array UInt8} {input : List UInt8}
    (words : i.words = [.unicode name, .unicode path])
    (readable : i.contents (.unicode path) = .ok image) (whole : 4 ∣ image.size)
    (configured : i.Configured c) (stdin : i.source = .bytes input)
    (writable : i.device = .accepting) :
    ∃ program, Image.decode image = .ok program ∧ ∀ fuel,
      let ran := (Machine.start program ({ input } : Buffer)).runFor? fuel
        (c.maxSteps.map UInt64.toNat)
      ((i.run? fuel).isSome = ran.isSome) ∧
      (∀ o, i.run? fuel = some o → ∃ answer m, ran = some (answer, m) ∧
        o.streams.output = m.channel.output ∧ o.streams.source = .bytes m.channel.input ∧
        Reported c.maxSteps answer o.exitCode o.report) ∧
      ∀ (j : Invocation) (eachByte : Bool), j.Configured { c with flushEachOutput := eachByte } →
        j.Programmed program → j.source = i.source → j.device = i.device →
        j.run? fuel = i.run? fuel := by
  obtain ⟨program, read⟩ := Image.exists_decode_iff.mpr whole
  have programmed : i.Programmed program := programmed_of_image words readable whole read
  refine ⟨program, read, fun fuel => ?_⟩
  have buffered := run?_eq_buffer configured programmed stdin writable fuel
  refine ⟨?_, fun o ended => ?_, fun j eachByte configured' programmed' source device => ?_⟩
  · rw [buffered, Option.isSome_map]
  · rw [buffered, Option.map_eq_some_iff] at ended
    obtain ⟨⟨answer, m⟩, ran, rfl⟩ := ended
    exact ⟨answer, m, ran, rfl, rfl, reported_of_ran ran rfl⟩
  · rw [run?_eq_unbuffered configured' programmed' (device.trans writable), source,
      run?_eq_unbuffered configured programmed writable]

/-- A limit cuts an echo before it halts. The byte that is pending then is delivered all the same,
and it makes no difference whether it has been delivered at once. -/
theorem cut_echo_delivered :
    let contents (path : SystemText) : Except String (Array UInt8) :=
      if path = .unicode "echo.um" then .ok #[0xB0, 0, 0, 1, 0xA0, 0, 0, 1, 0x70, 0, 0, 0]
      else if path = .unicode "lazy.ron" then .ok "(max_steps: Some(2))".toUTF8.data
      else if path = .unicode "eager.ron" then
        .ok "(max_steps: Some(2), flush_each_output: true)".toUTF8.data
      else .error SystemError.noSuchFile.message
    let invocation (configuration : String) : Invocation :=
      { words := [.unicode "um", .unicode "echo.um"],
        configuration := some (.unicode configuration), complaint := id,
        panic := SystemText.display, contents, source := .bytes [104, 105] }
    ∃ o, (invocation "lazy.ron").run? 0 = some o ∧ (invocation "eager.ron").run? 0 = some o ∧
      o.streams.output = #[104] ∧ o.streams.source = .bytes [105] ∧ o.exitCode = 1 ∧
      o.report = "um: step limit of 2 reached without halting\n" := by
  intro contents invocation
  let image : Array UInt8 := #[0xB0, 0, 0, 1, 0xA0, 0, 0, 1, 0x70, 0, 0, 0]
  have lazy : (invocation "lazy.ron").Configured { maxSteps := some 2 } :=
    configured_of_text "(max_steps: Some(2))" rfl rfl (by decide +kernel)
  have eager : (invocation "eager.ron").Configured
      { maxSteps := some 2, flushEachOutput := true } :=
    configured_of_text "(max_steps: Some(2), flush_each_output: true)" rfl rfl (by decide +kernel)
  have readable : contents (.unicode "echo.um") = .ok image := rfl
  obtain ⟨program, read, same⟩ :=
    command_transparent rfl readable (by decide) lazy rfl rfl
  obtain rfl : #[0xB0000001, 0xA0000001, 0x70000000] = program :=
    Except.ok.inj ((by decide : Image.decode image = .ok _).symm.trans read)
  obtain ⟨ends, told, timing⟩ := same 0
  obtain ⟨o, ended⟩ := Option.isSome_iff_exists.mp (ends.trans rfl)
  obtain ⟨answer, m, ran, output, source, reported⟩ := told o ended
  have eager' := timing (invocation "eager.ron") true eager
    (programmed_of_image rfl rfl (by decide) read) rfl rfl
  let shown (result : Except Fault Status × Machine Buffer) := (result.1, result.2.channel)
  have seen : ((Machine.start #[0xB0000001, 0xA0000001, 0x70000000]
      ({ input := [104, 105] } : Buffer)).runFor? 0 (some 2)).map shown =
        some (.ok .running, { input := [105], output := #[104] }) := by decide +kernel
  obtain ⟨rfl, held⟩ := Prod.mk.inj
    (Option.some.inj ((congrArg (Option.map shown) ran).symm.trans seen))
  rw [held] at output source
  refine ⟨o, ended, eager'.trans ended, output, source, ?_⟩
  generalize o.exitCode = code, o.report = report at reported ⊢
  cases reported with
  | stepLimit limited =>
      obtain rfl := Option.some.inj limited
      exact ⟨rfl, rfl⟩

end UniversalMachine.Invocation
