import UniversalMachine.Invocation

/-!
The command line: files, standard streams and the environment around a process.

The files that a process may ask for are read beforehand. Its machine takes one turn after the
other on a console that stands for the standard streams. A turn is first taken on a console that
refuses nothing, to learn what it asks of the streams, and once more if the system answers
otherwise; what a machine does is settled by `Process` and by `Machine.turn` alone.
-/

namespace UniversalMachine.CommandLine

/-- The number of an error, which some calls give with its sign changed. -/
def number? : IO.Error → Option UInt32
  | .noFileOrDirectory _ code _ | .inappropriateType _ code _ | .resourceExhausted _ code _
  | .invalidArgument _ code _ => some (min code (0 - code))
  | _ => none

def reason (error : IO.Error) : String :=
  let known : List SystemError :=
    [.noSuchFile, .notDirectory, .isDirectory, .noSpace, .nameTooLong]
  let named := (number? error).bind fun number =>
    known.find? (·.number? = some number.toNat)
  named.elim (toString error) SystemError.message

def readContents (path : SystemText) : IO (Except String (Array UInt8)) := do
  let path := path.display
  if path.toList.contains '\x00' then return .error SystemError.nulInPath.message
  try return .ok (← IO.FS.readBinFile path).data
  catch error => return .error (reason error)

def invocation (arguments : List String) : IO Invocation := do
  let configuration := (← IO.getEnv Configuration.environmentVariable).map SystemText.unicode
  let arguments := arguments.map SystemText.unicode
  let paths := configuration.toList ++ arguments
  let files ← paths.mapM fun path => return (path, ← readContents path)
  return {
    words := .unicode "um" :: arguments
    configuration
    complaint := fun _ => "not a document with the fields of a configuration"
    panic := fun word => s!"not a text: {word.display}\n"
    contents := fun path => (files.lookup path).getD (.error SystemError.noSuchFile.message) }

def write (bytes : Array UInt8) : IO (Option String) := do
  if bytes.isEmpty then return none
  try
    let output ← IO.getStdout
    output.write ⟨bytes⟩
    output.flush
    return none
  catch error => return some (reason error)

/-- What standard input answers if a single byte is asked for. -/
def read : IO Source := do
  try return .bytes (← (← IO.getStdin).read 1).toList
  catch error => return .broken (reason error)

/-- The console on which a turn is tried. -/
def obliging (c : Console) : Console :=
  { c with source := .bytes [0], device := .accepting, delivered := #[] }

def turn (limit : Option Nat) (m : Machine Console) :
    IO (Option (Except Fault Status) × Option Nat × Machine Console) := do
  let console := obliging m.channel
  let turnOn (channel : Console) := ({ m with channel }).turn limit
  let tried := turnOn console
  let { source, delivered, .. } := tried.2.2.channel
  if let some reason ← write delivered then
    return turnOn { console with device := .refusing reason }
  if source = console.source then return tried
  return turnOn { console with source := ← read }

partial def run (limit : Option Nat) (m : Machine Console) :
    IO (Except Fault Status × Machine Console) := do
  match ← turn limit m with
  | (none, limit, m) => run limit m
  | (some answer, _, m) => return (answer, { m with channel := obliging m.channel })

def outcome (i : Invocation) : IO (Outcome Streams) := do
  match i.process.start i.streams with
  | .error outcome => return outcome
  | .ok (limit, m) => return i.process.outcome (← run limit m)

end UniversalMachine.CommandLine

def main (arguments : List String) : IO UInt32 := do
  let i ← UniversalMachine.CommandLine.invocation arguments
  let o ← UniversalMachine.CommandLine.outcome i
  -- A refusal of what was still pending is not reported.
  let _ ← UniversalMachine.CommandLine.write o.streams.output
  IO.eprint o.report
  return o.exitCode.toUInt32
