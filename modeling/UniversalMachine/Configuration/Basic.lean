/-!
The configuration of a run.
-/

namespace UniversalMachine

structure Configuration where
  /-- The number of instructions after which a run is given up. -/
  maxSteps : Option UInt64 := none
  /-- Output is delivered after every byte, and not only before input is read and at the
  end. -/
  flushEachOutput : Bool := false
  deriving DecidableEq

namespace Configuration

def environmentVariable : String :=
  "UM_CONFIG"

/-- The name that a configuration file may give to its document. -/
def title : String :=
  "MachineConfig"

def maxStepsField : String :=
  "max_steps"

def flushEachOutputField : String :=
  "flush_each_output"

/-- Why a file holds no configuration: the system does not read it, or the reader of documents
refuses its text. Either gives a reason in words. -/
inductive Error where
  | unreadable (path reason : String)
  | malformed (reason : String)
  deriving DecidableEq

def Error.message : Error → String
  | unreadable path reason => s!"cannot read config {path}: {reason}"
  | malformed reason => s!"invalid config: {reason}"

end Configuration

end UniversalMachine
