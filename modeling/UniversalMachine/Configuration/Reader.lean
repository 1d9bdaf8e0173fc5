import UniversalMachine.Configuration.Basic
import UniversalMachine.Document
import UniversalMachine.SystemError

/-!
Reading a configuration from a text or from a file.

A field that is missing keeps its default, fields with other names do not matter, and a
field of a configuration that is given twice is an error.
-/

namespace UniversalMachine.Configuration

/-- The limit that a value stands for. With `implicit` a number needs no mark that it is
present. -/
def limit? (implicit : Bool) : Document.Value → Option (Option UInt64)
  | .absent => some none
  | .present (.natural n) => some (some n)
  | .natural n => if implicit then some (some n) else none
  | _ => none

def switch? : Document.Value → Option Bool
  | .boolean b => some b
  | _ => none

def setting? {α : Type} (d : Document) (name : String) (read : Document.Value → Option α)
    (default : α) : Option α :=
  (d.field? name).bind fun value => value.elim (some default) read

def ofDocument? (d : Document) : Option Configuration := do
  guard (d.name?.all (· = title))
  let implicit := decide (.implicitPresence ∈ d.extensions)
  let maxSteps ← setting? d maxStepsField (limit? implicit) none
  let flushEachOutput ← setting? d flushEachOutputField switch? false
  return { maxSteps, flushEachOutput }

def ofText? (text : String) : Option Configuration :=
  (Document.read? text).bind ofDocument?

/-- The configuration in a file, given what reading the file answered, and what is to be said of
a text that holds none. -/
def load (complaint : String → String) (path : String)
    (contents : Except String (Array UInt8)) : Except Error Configuration :=
  match contents with
  | .error reason => .error (.unreadable path reason)
  | .ok bytes =>
      match String.fromUTF8? ⟨bytes⟩ with
      | none => .error (.unreadable path SystemError.invalidText.message)
      | some text =>
          match ofText? text with
          | some c => .ok c
          | none => .error (.malformed (complaint text))

end UniversalMachine.Configuration
