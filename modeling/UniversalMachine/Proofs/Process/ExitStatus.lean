import Mathlib
import UniversalMachine.Proofs.Invocation.Stages

/-!
What a process reports, whatever its streams are. The exit status is zero if and only if every
stage succeeds and the machine halts; otherwise the report names the failure of the first stage
that fails. A report of the limit is different from every other report, and it tells the limit that
is configured, because a run that is cut has taken as many steps as its limit allows. A limit that
does not cut the run makes no difference.

All of this is about command lines of Unicode words. A process with any other word is ended by the
runtime before it reads anything, with a status and a report of its own.
-/

namespace UniversalMachine

/-! ### Reports -/

/-- How a text begins is settled by its first part, if that is long enough. -/
theorem take_append {k : ℕ} {s : String} (long : k ≤ s.toList.length) (t : String) :
    (s ++ t).toList.take k = s.toList.take k := by
  rw [String.toList_append, List.take_append_of_le_length long]

theorem Fault.take_message_ne (fault : Fault) : fault.message.toList.take 2 ≠ ['s', 't'] := by
  cases fault with
  | divisionByZero => decide +kernel
  | invalidProgram | unreadableProgram | illegalOpcode | segmentFault | invalidSegment
  | outOfRange | invalidRegister | io =>
      delta message
      simp only [String.append_assoc]
      rw [take_append (by decide +kernel)]
      decide +kernel

theorem Configuration.Error.take_message_ne (error : Error) :
    error.message.toList.take 2 ≠ ['s', 't'] := by
  cases error with
  | malformed | unreadable =>
      delta message
      simp only [String.append_assoc]
      rw [take_append (by decide +kernel)]
      decide +kernel

namespace Failure

theorem take_report (t : String) :
    ("um: " ++ t).toList.take 6 = ['u', 'm', ':', ' '] ++ t.toList.take 2 := by
  rw [String.toList_append]
  rfl

theorem take_message_stepLimit (n : ℕ) :
    (stepLimit n).message.toList.take 6 = ['u', 'm', ':', ' '] ++ ['s', 't'] := by
  delta message
  simp only [String.append_assoc]
  rw [take_append (by decide +kernel)]
  decide +kernel

theorem take_message_usage (name : String) :
    (usage name).message.toList.take 6 = ['u', 's', 'a', 'g', 'e', ':'] := by
  delta message
  simp only [String.append_assoc]
  rw [take_append (by decide +kernel)]
  decide +kernel

variable {failure : Failure}

/-- No other failure of the command is reported like a limit, nor is another limit. -/
theorem message_eq_stepLimit_iff (known : ∀ report, failure ≠ .panic report) {n : ℕ} :
    failure.message = (stepLimit n).message ↔ failure = stepLimit n := by
  refine ⟨fun same => ?_, congrArg message⟩
  have opening := congrArg (fun s => s.toList.take 6) same
  simp only [take_message_stepLimit] at opening
  cases failure with
  | panic report => exact absurd rfl (known report)
  | usage name => exact absurd ((take_message_usage name).symm.trans opening) (by decide +kernel)
  | configuration error =>
      exact absurd (List.append_cancel_left ((take_report _).symm.trans opening))
        error.take_message_ne
  | program fault | run fault =>
      exact absurd (List.append_cancel_left ((take_report _).symm.trans opening))
        fault.take_message_ne
  | stepLimit k =>
      have same' : "um: step limit of " ++ toString k ++ " reached without halting" =
        "um: step limit of " ++ toString n ++ " reached without halting" := same
      have number := (String.append_right_inj _).mp ((String.append_left_inj _).mp same')
      rw [Nat.repr_inj.mp number]

theorem exitCode_ne_zero (failure : Failure) : failure.exitCode ≠ 0 := by
  cases failure <;> exact Nat.succ_ne_zero _

theorem report_of_known (known : ∀ report, failure ≠ .panic report) :
    failure.exitCode = 1 ∧ failure.report = failure.message ++ "\n" := by
  cases failure with
  | panic report => exact absurd rfl (known report)
  | usage | configuration | program | run | stepLimit => exact ⟨rfl, rfl⟩

end Failure

namespace Outcome

variable {σ : Type} {o : Outcome σ}

theorem report_of_failure {failure : Failure} (known : ∀ report, failure ≠ .panic report)
    (failed : o.failure? = some failure) :
    o.exitCode = 1 ∧ o.report = failure.message ++ "\n" := by
  rw [exitCode, report, failed]
  exact Failure.report_of_known known

theorem exitCode_eq_zero_iff : o.exitCode = 0 ↔ o.failure? = none := by
  rw [exitCode]
  cases o.failure? <;> simp [Failure.exitCode_ne_zero]

/-- The runtime has not ended the process. -/
def Known (o : Outcome σ) : Prop :=
  ∀ report, o.failure? ≠ some (.panic report)

theorem Known.failure {failure : Failure} (known : o.Known)
    (failed : o.failure? = some failure) : ∀ report, failure ≠ .panic report := by
  rintro report rfl
  exact known report failed

theorem exitCode_eq_one_iff (known : o.Known) : o.exitCode = 1 ↔ o.failure? ≠ none := by
  cases failed : o.failure? with
  | none => simp [exitCode, failed]
  | some failure => simp [(report_of_failure (known.failure failed) failed).1]

theorem report_eq_empty_iff (known : o.Known) : o.report = "" ↔ o.failure? = none := by
  cases failed : o.failure? with
  | none => simp [report, failed]
  | some failure => simp [(report_of_failure (known.failure failed) failed).2]

theorem report_eq_stepLimit_iff (known : o.Known) {n : ℕ} :
    o.report = s!"um: step limit of {n} reached without halting\n" ↔
      o.failure? = some (.stepLimit n) := by
  have ending : " reached without halting" ++ "\n" = " reached without halting\n" := by
    decide +kernel
  have joined (s : String) :
      s ++ " reached without halting\n" = s ++ " reached without halting" ++ "\n" := by
    rw [String.append_assoc, ending]
  have line : s!"um: step limit of {n} reached without halting\n" =
      (Failure.stepLimit n).message ++ "\n" := joined _
  cases failed : o.failure? with
  | none => simp [report, failed]
  | some failure =>
      have known := known.failure failed
      rw [line, (report_of_failure known failed).2, String.append_left_inj,
        Failure.message_eq_stepLimit_iff known, Option.some.injEq]

end Outcome

namespace Process

variable {σ χ : Type} [Channel χ]

/-- The first stage that fails, the run included, and why. -/
inductive FirstFailure (p : Process σ χ) (s : σ) (fuel : ℕ) : Failure → Prop
  | unprepared {failure : Failure} {s' : σ} (failed : p.Unprepared s failure s') :
      FirstFailure p s fuel failure
  | fault {c : Configuration} {program : Array Word} {s' : σ} {fault : Fault} {m : Machine χ}
      (prepared : p.Prepared s c program s')
      (ran : (p.machine c program s').runFor? fuel (c.maxSteps.map UInt64.toNat) =
        some (.error fault, m)) : FirstFailure p s fuel (.run fault)
  | stepLimit {c : Configuration} {program : Array Word} {s' : σ} {limit : UInt64}
      {m : Machine χ} (prepared : p.Prepared s c program s') (limited : c.maxSteps = some limit)
      (ran : (p.machine c program s').run limit.toNat = (.ok .running, m)) :
      FirstFailure p s fuel (.stepLimit limit.toNat)

variable {p : Process σ χ} {s s' : σ} {fuel : ℕ} {o : Outcome σ} {c : Configuration}
  {program : Array Word}

/-- A machine that its limit has cut has taken as many steps as the limit says. -/
theorem verdict_of_cut {channel : χ} {limit : ℕ} {m : Machine χ}
    (ran : (Machine.start program channel).run limit = (.ok .running, m)) :
    verdict (.ok .running) m = some (.stepLimit limit) := by
  rw [Machine.run_eq_of_running rfl, Prod.mk.injEq] at ran
  obtain ⟨running, rfl⟩ := ran
  have counted : (Machine.stepped^[limit] (Machine.start program channel)).steps = limit :=
    (Machine.steps_iterate_eq (Status.answer_eq_running_iff.mp running)).trans (Nat.zero_add limit)
  exact congrArg (fun n => some (Failure.stepLimit n)) counted

theorem run?_of_ran {result : Except Fault Status × Machine χ}
    (prepared : p.Prepared s c program s')
    (ran : (p.machine c program s').runFor? fuel (c.maxSteps.map UInt64.toNat) = some result) :
    p.run? fuel s = some (p.outcome result) := by
  rw [run?_of_prepared prepared, ran, Option.map_some]

theorem failure?_of_firstFailure (ended : p.run? fuel s = some o) {failure : Failure}
    (first : p.FirstFailure s fuel failure) : o.failure? = some failure := by
  cases first with
  | unprepared failed =>
      rw [run?_of_unprepared failed] at ended
      rw [← Option.some.inj ended]
  | fault prepared ran =>
      rw [run?_of_ran prepared ran] at ended
      rw [← Option.some.inj ended]
      rfl
  | @stepLimit c program s' limit m prepared limited ran =>
      have ran' : (p.machine c program s').runFor? fuel (c.maxSteps.map UInt64.toNat) =
          some (.ok .running, m) := by
        rw [limited, Option.map_some, Machine.runFor?, ran]
      rw [run?_of_ran prepared ran'] at ended
      rw [← Option.some.inj ended]
      exact verdict_of_cut ran

theorem halted_or_firstFailure (ended : p.run? fuel s = some o) :
    (∃ c program s' m, p.Prepared s c program s' ∧
      (p.machine c program s').runFor? fuel (c.maxSteps.map UInt64.toNat) =
        some (.ok .halted, m)) ∨
    ∃ failure, p.FirstFailure s fuel failure := by
  obtain ⟨c, program, s', prepared⟩ | ⟨failure, s', failed⟩ := p.prepared_or_unprepared s
  · rw [run?_of_prepared prepared, Option.map_eq_some_iff] at ended
    obtain ⟨⟨answer, m⟩, ran, -⟩ := ended
    obtain rfl | ⟨fault, rfl⟩ | ⟨n, mapped, rfl, cut⟩ := Machine.runFor?_cases rfl ran
    · exact .inl ⟨c, program, s', m, prepared, ran⟩
    · exact .inr ⟨.run fault, .fault prepared ran⟩
    · obtain ⟨limit, limited, rfl⟩ := Option.map_eq_some_iff.mp mapped
      exact .inr ⟨_, .stepLimit prepared limited cut⟩
  · exact .inr ⟨failure, .unprepared failed⟩

theorem failure?_eq_none_iff (ended : p.run? fuel s = some o) :
    o.failure? = none ↔ ∃ c program s' m, p.Prepared s c program s' ∧
      (p.machine c program s').runFor? fuel (c.maxSteps.map UInt64.toNat) =
        some (.ok .halted, m) := by
  constructor
  · intro succeeded
    obtain halted | ⟨failure, first⟩ := halted_or_firstFailure ended
    · exact halted
    · rw [failure?_of_firstFailure ended first] at succeeded
      cases succeeded
  · rintro ⟨c, program, s', m, prepared, ran⟩
    rw [run?_of_ran prepared ran] at ended
    rw [← Option.some.inj ended]
    rfl

/-- The runtime does not end a process all of whose words are Unicode. -/
theorem known_of_unicode {texts : List String} (unicode : p.words = texts.map .unicode)
    (ended : p.run? fuel s = some o) : o.Known := by
  intro report failed
  obtain halted | ⟨failure, first⟩ := halted_or_firstFailure ended
  · rw [(failure?_eq_none_iff ended).mpr halted] at failed
    cases failed
  · rw [failure?_of_firstFailure ended first] at failed
    obtain rfl := Option.some.inj failed
    cases first with
    | unprepared failed =>
        cases failed with
        | panic words =>
            have read := SystemText.texts_unicode texts
            rw [← unicode, words, SystemText.texts_other] at read
            cases read

/-- The runtime ends a process if and only if one of its words is not Unicode. It does so before
anything is read. -/
theorem exitCode_eq_panic_iff (ended : p.run? fuel s = some o) :
    (o.exitCode = 101 ↔ ∃ word ∈ p.words, ∀ text, word ≠ .unicode text) ∧
      (o.exitCode = 101 → o.streams = s) := by
  obtain ⟨texts, words⟩ | ⟨texts, bytes, invalid, more, words⟩ := SystemText.texts_cases p.words
  · have other : o.exitCode ≠ 101 := by
      rcases failed : o.failure? with - | failure
      · rw [Outcome.exitCode_eq_zero_iff.mpr failed]
        decide
      · have known := (known_of_unicode words ended).failure failed
        rw [(Outcome.report_of_failure known failed).1]
        decide
    refine ⟨⟨fun code => absurd code other, fun ⟨word, mem, bytes⟩ => ?_⟩,
      fun code => absurd code other⟩
    rw [words] at mem
    obtain ⟨text, -, rfl⟩ := List.mem_map.mp mem
    exact absurd rfl (bytes text)
  · rw [run?_of_unprepared (.panic words)] at ended
    obtain rfl := Option.some.inj ended
    refine ⟨⟨fun _ => ⟨.other bytes invalid, ?_, fun text same => by cases same⟩, fun _ => rfl⟩,
      fun _ => rfl⟩
    rw [words]
    exact List.mem_append_right _ List.mem_cons_self

/-! ### Limits -/

/-- The limit is reported if and only if as many instructions as it says have been carried out and
the machine has neither halted nor faulted. -/
theorem failure?_eq_stepLimit_iff (ended : p.run? fuel s = some o) {n : ℕ} :
    o.failure? = some (.stepLimit n) ↔ ∃ c program s' limit, p.Prepared s c program s' ∧
      c.maxSteps = some limit ∧ limit.toNat = n ∧
        ∀ k < n, (p.machine c program s').answer k = .ok .running := by
  constructor
  · intro failed
    obtain halted | ⟨failure, first⟩ := halted_or_firstFailure ended
    · rw [(failure?_eq_none_iff ended).mpr halted] at failed
      cases failed
    · rw [failure?_of_firstFailure ended first, Option.some.injEq] at failed
      subst failed
      cases first with
      | unprepared failed => cases failed
      | @stepLimit c program s' limit m prepared limited ran =>
          refine ⟨c, program, s', limit, prepared, limited, rfl, ?_⟩
          rw [Machine.run_eq_of_running rfl, Prod.mk.injEq, Status.answer_eq_running_iff] at ran
          exact (Machine.running_iterate_iff rfl).mp ran.1
  · rintro ⟨c, program, s', limit, prepared, limited, rfl, going⟩
    have running := (Machine.running_iterate_iff rfl).mpr going
    have ran := Machine.run_eq_of_running (m := p.machine c program s') rfl limit.toNat
    rw [running] at ran
    exact failure?_of_firstFailure ended (.stepLimit prepared limited ran)

/-- The outcome of a run that no limit cuts is that of the step which stops the machine. -/
theorem run?_eq_of_last {k : ℕ} (prepared : p.Prepared s c program s')
    (last : (p.machine c program s').answer k ≠ .ok .running)
    (within : ∀ limit, c.maxSteps = some limit → k < limit.toNat) :
    let final := p.outcome ((p.machine c program s').answer k,
      Machine.stepped^[k + 1] (p.machine c program s'))
    (∀ fuel o, p.run? fuel s = some o → o = final) ∧ ∃ fuel, p.run? fuel s = some final := by
  have within' : ∀ n, c.maxSteps.map UInt64.toNat = some n → k < n := by
    intro n limited
    obtain ⟨limit, given, rfl⟩ := Option.map_eq_some_iff.mp limited
    exact within limit given
  constructor
  · intro fuel o ended
    rw [run?_of_prepared prepared, Option.map_eq_some_iff] at ended
    obtain ⟨result, ran, rfl⟩ := ended
    rw [Machine.runFor?_eq_of_ended rfl last within' ran]
  · obtain ⟨fuel, ran⟩ := Machine.exists_runFor?_of_ended last within'
    exact ⟨fuel, run?_of_ran prepared ran⟩

/-- Let the words of a process be Unicode, whatever its streams are, and let its run end. It
succeeds if and only if there is one argument, the configuration that is named can be read, the
program can be read, and the machine halts within the limit; it reports nothing exactly then.
Otherwise it reports the first stage that fails, and if that is not the run then it leaves the
streams as the reading of the files has left them, untouched if no file is one of them. The limit
is reported if and only if the process comes to its run, the limit is the one that is configured,
and the machine has carried out as many instructions without halting or faulting. If it has not,
the outcome is the same with any larger limit and with none. -/
theorem first_failure_reported {texts : List String} (unicode : p.words = texts.map .unicode)
    (ended : p.run? fuel s = some o) :
    (o.exitCode = 0 ↔ ∃ c program s' m, p.Prepared s c program s' ∧
      (p.machine c program s').runFor? fuel (c.maxSteps.map UInt64.toNat) =
        some (.ok .halted, m)) ∧
    (o.report = "" ↔ o.exitCode = 0) ∧
    (o.exitCode ≠ 0 → ∃ failure, p.FirstFailure s fuel failure) ∧
    (∀ failure, p.FirstFailure s fuel failure →
      o.exitCode = 1 ∧ o.report = failure.message ++ "\n") ∧
    (∀ failure s', p.Unprepared s failure s' →
      o.streams = s' ∧ ((∀ path s, (p.contents path s).2 = s) → s' = s)) ∧
    (∀ n : ℕ, o.report = s!"um: step limit of {n} reached without halting\n" ↔
      ∃ c program s' limit, p.Prepared s c program s' ∧ c.maxSteps = some limit ∧
        limit.toNat = n ∧ ∀ k < n, (p.machine c program s').answer k = .ok .running) ∧
    ∀ c program s' limit, p.Prepared s c program s' → c.maxSteps = some limit →
      (∃ k < limit.toNat, (p.machine c program s').answer k ≠ .ok .running) →
      ∀ (q : Process σ χ) (t : σ) (larger : Option UInt64),
        q.Prepared t { c with maxSteps := larger } program s' →
        q.attach = p.attach → q.detach = p.detach →
        (∀ limit', larger = some limit' → limit ≤ limit') →
        (∀ fuel' o', q.run? fuel' t = some o' → o' = o) ∧ ∃ fuel', q.run? fuel' t = some o := by
  have known := known_of_unicode unicode ended
  have failed {failure : Failure} (first : p.FirstFailure s fuel failure) :
      o.failure? = some failure := failure?_of_firstFailure ended first
  refine ⟨?_, ?_, ?_, fun failure first => ?_, ?_, ?_, ?_⟩
  · rw [Outcome.exitCode_eq_zero_iff, failure?_eq_none_iff ended]
  · rw [Outcome.report_eq_empty_iff known, Outcome.exitCode_eq_zero_iff]
  · intro failed
    rw [Ne, Outcome.exitCode_eq_zero_iff, failure?_eq_none_iff ended] at failed
    exact (halted_or_firstFailure ended).resolve_left failed
  · exact Outcome.report_of_failure (known.failure (failed first)) (failed first)
  · intro failure s' failed
    rw [run?_of_unprepared failed] at ended
    rw [← Option.some.inj ended]
    exact ⟨rfl, failed.streams_eq⟩
  · intro n
    rw [Outcome.report_eq_stepLimit_iff known, failure?_eq_stepLimit_iff ended]
  · rintro c program s' limit prepared limited ⟨k, lt, last⟩ q t larger prepared' attach detach
      bound
    have same : q.machine { c with maxSteps := larger } program s' = p.machine c program s' := by
      simp only [machine, attach]
    have ends : q.outcome = p.outcome := by
      funext result
      simp only [outcome, detach]
    have within : ∀ limit', c.maxSteps = some limit' → k < limit'.toNat := by
      intro limit' limited'
      rw [limited, Option.some.injEq] at limited'
      exact limited' ▸ lt
    have within' : ∀ limit', larger = some limit' → k < limit'.toNat := by
      intro limit' limited'
      exact Nat.lt_of_lt_of_le lt (UInt64.le_iff_toNat_le.mp (bound limit' limited'))
    rw [(run?_eq_of_last prepared last within).1 fuel o ended, ← ends]
    rw [← same] at last ⊢
    exact run?_eq_of_last prepared' last within'

/-- A program of two instructions halts within a limit of three, and a limit of ten leads to the
same outcome. A limit of one cuts it. If neither the configuration nor the program can be read, it
is the configuration that is reported. -/
theorem limits_of_two_instructions :
    let contents (path : SystemText) : Except String (Array UInt8) :=
      if path = .unicode "halt.um" then .ok #[0xD0, 0, 0, 7, 0x70, 0, 0, 0]
      else if path = .unicode "one.ron" then .ok "(max_steps: Some(1))".toUTF8.data
      else if path = .unicode "three.ron" then .ok "(max_steps: Some(3))".toUTF8.data
      else if path = .unicode "ten.ron" then .ok "(max_steps: Some(10))".toUTF8.data
      else .error SystemError.noSuchFile.message
    let invocation (program configuration : String) : Invocation :=
      { words := [.unicode "um", .unicode program], configuration := some (.unicode configuration),
        complaint := id, panic := SystemText.display, contents }
    ∃ halted cut unread : Outcome Streams,
      (invocation "halt.um" "three.ron").run? 0 = some halted ∧
      (invocation "halt.um" "one.ron").run? 0 = some cut ∧
      (invocation "none.um" "none.ron").run? 0 = some unread ∧ halted.exitCode = 0 ∧
      (∃ fuel, (invocation "halt.um" "ten.ron").run? fuel = some halted) ∧
      cut.report = "um: step limit of 1 reached without halting\n" ∧
      unread.report =
        "um: cannot read config none.ron: No such file or directory (os error 2)\n" := by
  intro contents invocation
  let program : Array Word := #[0xD0000007, 0x70000000]
  have words (name configuration : String) : (invocation name configuration).process.words =
      ["um", name].map .unicode := rfl
  have programmed (name : String) : (invocation "halt.um" name).Programmed program :=
    Invocation.programmed_of_image rfl rfl (by decide) (by decide)
  have one : (invocation "halt.um" "one.ron").Configured { maxSteps := some 1 } :=
    Invocation.configured_of_text "(max_steps: Some(1))" rfl rfl (by decide +kernel)
  have three : (invocation "halt.um" "three.ron").Configured { maxSteps := some 3 } :=
    Invocation.configured_of_text "(max_steps: Some(3))" rfl rfl (by decide +kernel)
  have ten : (invocation "halt.um" "ten.ron").Configured { maxSteps := some 10 } :=
    Invocation.configured_of_text "(max_steps: Some(10))" rfl rfl (by decide +kernel)
  have missing : (invocation "none.um" "none.ron").Unprepared (.configuration
      (.unreadable (SystemText.unicode "none.ron").display SystemError.noSuchFile.message)) :=
    .configuration rfl (.unreadable rfl rfl)
  have halted := Invocation.run?_of_prepared three (programmed "three.ron") 0
  have cut := Invocation.run?_of_prepared one (programmed "one.ron") 0
  have unread := Invocation.run?_of_unprepared missing 0
  have halts : ∃ m, ((invocation "halt.um" "three.ron").machine { maxSteps := some 3 }
      program).run 3 = (.ok .halted, m) := ⟨_, Prod.ext (by decide) rfl⟩
  refine ⟨_, _, _, halted, cut, unread, ?_, ?_, ?_, ?_⟩
  · obtain ⟨m, ran⟩ := halts
    exact (first_failure_reported (words _ _) halted).1.mpr
      ⟨_, _, _, m, .intro three (programmed _), congrArg some ran⟩
  · obtain ⟨-, -, -, -, -, -, larger⟩ := first_failure_reported (words _ _) halted
    refine (larger _ _ _ 3 (.intro three (programmed _)) rfl ⟨1, by decide, by decide⟩ _ _
      (some 10) (.intro ten (programmed _)) rfl rfl ?_).2
    rintro limit' ⟨⟩
    decide
  · obtain ⟨-, -, -, -, -, limit, -⟩ := first_failure_reported (words _ _) cut
    exact (limit 1).mpr ⟨_, _, _, 1, .intro one (programmed _), rfl, rfl, by decide⟩
  · obtain ⟨-, -, -, reported, -⟩ := first_failure_reported (words _ _) unread
    rw [(reported _ (.unprepared missing)).2]
    decide +kernel

/-- What is said of Unicode words does not hold of all words, and it cannot be said more simply.
The runtime ends a process whose only argument is not Unicode, although the argument leads to a
program that halts. A limit of zero is not reported if there is no program, although none of the
first zero instructions halts or faults. And a configuration that is read from standard input
consumes input, although no program follows. -/
theorem first_failure_has_exceptions :
    let unread : SystemText := .other [0xFF, 0x2E, 0x75, 0x6D] (by decide +kernel)
    let contents (path : SystemText) : Except String (Array UInt8) :=
      if path = unread then .ok #[0x70, 0, 0, 0]
      else if path = .unicode "zero.ron" then .ok "(max_steps: Some(0))".toUTF8.data
      else .error SystemError.noSuchFile.message
    let invocation (program : SystemText) (configuration : Option String) : Invocation :=
      { words := [.unicode "um", program], configuration := configuration.map .unicode,
        complaint := id, panic := SystemText.display, contents }
    let fromInput : Process Streams Console :=
      { (invocation (.unicode "none.um") (some "/dev/stdin")).process with
        contents := fun path s =>
          match s.source with
          | .bytes input =>
              if path = .unicode "/dev/stdin" then
                (.ok input.toArray, { s with source := .bytes [] })
              else (.error SystemError.noSuchFile.message, s)
          | .broken reason => (.error reason, s) }
    (contents unread = .ok #[0x70, 0, 0, 0] ∧
      Image.decode #[0x70, 0, 0, 0] = .ok #[0x70000000] ∧
      (((invocation unread none).machine {} #[0x70000000]).runFor? 1 none).map Prod.fst =
        some (.ok .halted) ∧
      ∃ o, (invocation unread none).run? 1 = some o ∧ o.exitCode = 101) ∧
    ((invocation (.unicode "none.um") (some "zero.ron")).Configured { maxSteps := some 0 } ∧
      ∃ o, (invocation (.unicode "none.um") (some "zero.ron")).run? 0 = some o ∧
        o.report =
          "um: cannot read program none.um: No such file or directory (os error 2)\n") ∧
    ∃ o, fromInput.run? 0 { source := .bytes "()".toUTF8.toList } = some o ∧
      o.report = "um: cannot read program none.um: No such file or directory (os error 2)\n" ∧
      o.streams.source = .bytes [] := by
  intro unread contents invocation fromInput
  have panicked : (invocation unread none).run? 1 =
      some { failure? := some (.panic unread.display), streams := {} } := by decide +kernel
  have zero : (invocation (.unicode "none.um") (some "zero.ron")).Configured
      { maxSteps := some 0 } :=
    Invocation.configured_of_text "(max_steps: Some(0))" rfl rfl (by decide +kernel)
  let missing : Failure :=
    .program (.unreadableProgram "none.um" SystemError.noSuchFile.message)
  have unlimited : (invocation (.unicode "none.um") (some "zero.ron")).run? 0 =
      some { failure? := some missing, streams := {} } := by decide +kernel
  have consumed : fromInput.run? 0 { source := .bytes "()".toUTF8.toList } =
      some { failure? := some missing, streams := {} } := by decide +kernel
  have report : missing.report =
      "um: cannot read program none.um: No such file or directory (os error 2)\n" := by
    decide +kernel
  exact ⟨⟨rfl, by decide, by decide +kernel, _, panicked, rfl⟩, ⟨zero, _, unlimited, report⟩,
    _, consumed, report, rfl⟩

end Process

end UniversalMachine
