import UniversalMachine.Configuration.Reader
import UniversalMachine.Image
import UniversalMachine.Machine.Run
import UniversalMachine.SystemText

/-!
Processes that carry out the command `um`, which runs the program in a file.

A process goes through four stages: it checks its arguments, reads its configuration, reads its
program, and runs it. The first stage that fails decides what is reported. A process succeeds if
and only if its machine halts.

Nothing is assumed here of the streams of a process. They are whatever the machine can use as a
channel, and a file that is read may be one of them.
-/

namespace UniversalMachine

/-- What a process is told when it starts, and the texts that it has from elsewhere. -/
structure Command where
  /-- The words of the command line, the name of the command first. -/
  words : List SystemText
  /-- The path of the configuration file, if one is named. -/
  configuration : Option SystemText := none
  /-- What the reader of documents says of a text that is no configuration. -/
  complaint : String → String
  /-- What the runtime reports before it ends a process that has a word which is not Unicode. -/
  panic : SystemText → String

inductive Failure where
  | panic (report : String)
  /-- There is not exactly one argument. -/
  | usage (name : String)
  | configuration (error : Configuration.Error)
  | program (fault : Fault)
  | run (fault : Fault)
  /-- The machine was still running after as many instructions as allowed. -/
  | stepLimit (steps : Nat)
  deriving DecidableEq

namespace Failure

def message : Failure → String
  | panic report => report
  | usage name => s!"usage: {name} <program.um>"
  | configuration error => s!"um: {error.message}"
  | program fault | run fault => s!"um: {fault.message}"
  | stepLimit steps => s!"um: step limit of {steps} reached without halting"

/-- The text on standard error. The runtime ends its own lines. -/
def report : Failure → String
  | panic report => report
  | failure => failure.message ++ "\n"

def exitCode : Failure → Nat
  | panic _ => 101
  | _ => 1

end Failure

structure Outcome (σ : Type) where
  failure? : Option Failure
  streams : σ
  deriving DecidableEq

namespace Outcome

variable {σ : Type}

def exitCode (o : Outcome σ) : Nat :=
  o.failure?.elim 0 Failure.exitCode

def report (o : Outcome σ) : String :=
  o.failure?.elim "" Failure.report

end Outcome

/-- A process that carries out the command, where `σ` is the state of its streams and `χ` the
channel that a machine has them as. -/
structure Process (σ χ : Type) extends Command where
  /-- The contents of the file at a path, or the reason why there are none. -/
  contents : SystemText → σ → Except String (Array UInt8) × σ
  /-- The channel by whether output is delivered after every byte. -/
  attach : Bool → σ → χ
  /-- What becomes of the channel when the process ends. -/
  detach : χ → σ

/-- The only argument. A command line without any word lacks a name as well. -/
def Command.programPath (c : Command) : Except Failure String :=
  match SystemText.texts c.words with
  | .error word => .error (.panic (c.panic word))
  | .ok [_, path] => .ok path
  | .ok texts => .error (.usage (texts.head?.getD "um"))

namespace Process

variable {σ χ : Type}

def loadConfiguration (p : Process σ χ) (s : σ) : Except Failure Configuration × σ :=
  match p.configuration with
  | none => (.ok {}, s)
  | some path =>
      let (answer, s) := p.contents path s
      ((Configuration.load p.complaint path.display answer).mapError .configuration, s)

def loadProgram (p : Process σ χ) (path : String) (s : σ) : Except Failure (Array Word) × σ :=
  let (answer, s) := p.contents (.unicode path) s
  ((Image.load path answer).mapError .program, s)

def prepare (p : Process σ χ) (s : σ) : Except Failure (Configuration × Array Word) × σ :=
  match p.programPath with
  | .error failure => (.error failure, s)
  | .ok path =>
      match p.loadConfiguration s with
      | (.error failure, s) => (.error failure, s)
      | (.ok configuration, s) =>
          let (program, s) := p.loadProgram path s
          (program.map (configuration, ·), s)

def machine (p : Process σ χ) (configuration : Configuration) (program : Array Word) (s : σ) :
    Machine χ :=
  Machine.start program (p.attach configuration.flushEachOutput s)

/-- What is reported of a run: nothing if the machine halted. -/
def verdict (answer : Except Fault Status) (m : Machine χ) : Option Failure :=
  match answer with
  | .ok .halted => none
  | .ok _ => some (.stepLimit m.steps)
  | .error fault => some (.run fault)

def outcome (p : Process σ χ) (result : Except Fault Status × Machine χ) : Outcome σ where
  failure? := verdict result.1 result.2
  streams := p.detach result.2.channel

/-- The machine that a process is to run, within which limit, unless the process ends before. -/
def start (p : Process σ χ) (s : σ) : Except (Outcome σ) (Option Nat × Machine χ) :=
  match p.prepare s with
  | (.error failure, s) => .error { failure? := some failure, streams := s }
  | (.ok (configuration, program), s) =>
      .ok (configuration.maxSteps.map UInt64.toNat, p.machine configuration program s)

/-- The outcome of a process. There is none if no limit is configured and the machine needs more
than `fuel` steps to stop. -/
def run? [Channel χ] (fuel : Nat) (p : Process σ χ) (s : σ) : Option (Outcome σ) :=
  match p.start s with
  | .error outcome => some outcome
  | .ok (limit, m) => (m.runFor? fuel limit).map p.outcome

end Process

end UniversalMachine
