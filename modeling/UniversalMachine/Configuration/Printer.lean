import UniversalMachine.Configuration.Basic
import UniversalMachine.Numeral

/-!
The text form of a configuration: one field a line, indented by four blanks and followed
by a comma, between parentheses.
-/

namespace UniversalMachine.Configuration

def line (name value : String) : String :=
  "    " ++ name ++ ": " ++ value ++ ",\n"

def limitText : Option UInt64 → String
  | none => "None"
  | some n => "Some(" ++ Numeral.decimal n.toNat ++ ")"

def switchText (b : Bool) : String :=
  if b then "true" else "false"

/-- The text of a configuration, without a line break at its end. -/
def text (c : Configuration) : String :=
  "(\n" ++ line maxStepsField (limitText c.maxSteps)
    ++ line flushEachOutputField (switchText c.flushEachOutput) ++ ")"

end UniversalMachine.Configuration
