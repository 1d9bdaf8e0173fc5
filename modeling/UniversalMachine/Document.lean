import UniversalMachine.Document.Value

/-!
Documents: the text form of a record of settings.

A document consists of requests for extensions, an optional name, and fields in
parentheses. `Document.read?` reads a whole text; blanks and comments may stand between
any two tokens.
-/

namespace UniversalMachine

structure Document where
  extensions : List Document.Extension := []
  name? : Option String := none
  /-- The names of the fields with their values, in the order of the text. -/
  fields : List (String × Document.Value) := []

namespace Document

def title : Reader (Option String) :=
  fun ts =>
    match ts with
    | .identifier _ :: _ => (name ts).map fun (text, ts) => (some text, ts)
    | _ => some (none, ts)

def ofTokens? (ts : List Token) : Option Document := do
  let bound := ts.length
  let (extensions, ts) ← requests bound ts
  let (name?, ts) ← title ts
  guard (name?.isSome ∨ .mandatoryName ∉ extensions)
  let field := pair name (value extensions bound maxDepth)
  let (fields, ts) ← separated ')' field bound (← expect '(' ts)
  guard (ts = [])
  return { extensions, name?, fields }

def read? (text : String) : Option Document :=
  (tokens text).bind ofTokens?

/-- The value of a field, which may be missing; no answer if there are several fields of
the name. -/
def field? (d : Document) (name : String) : Option (Option Value) :=
  match d.fields.filter (·.1 = name) with
  | [] => some none
  | [(_, v)] => some (some v)
  | _ => none

end Document

end UniversalMachine
