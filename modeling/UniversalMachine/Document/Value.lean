import UniversalMachine.Document.Extension
import UniversalMachine.Document.Preview

/-!
Values. Of a value only what a setting can be made of is kept; any other value is checked
for its form and otherwise dropped.
-/

namespace UniversalMachine.Document

inductive Value where
  | boolean (b : Bool)
  | natural (n : UInt64)
  /-- The value that says that there is none. -/
  | absent
  /-- The value that says that there is one. -/
  | present (value : Value)
  | other
  deriving DecidableEq

def startsField : List Token → Bool
  | .identifier i :: .punctuation ':' :: _ => !i.joined
  | _ => false

/-- What is left of a group after its opening parenthesis: fields if it begins like one,
or else a sequence of values. -/
def group (bound : Nat) (value : Reader Value) : Reader Value :=
  fun ts =>
    if startsField ts then
      (separated ')' (pair name value) bound ts).map fun (_, ts) => (.other, ts)
    else (separated ')' value bound ts).map fun (_, ts) => (.other, ts)

def enclosed (value : Reader Value) : Reader Value :=
  fun ts => do
    let (v, ts) ← value ts
    return (.present v, ← expect ')' ((expect ',' ts).getD ts))

/-- The same where a group in the parentheses may do without its own. They are those of a
group if they hold nothing, fields, or several values, of which the text after the opening
one tells. The opening parenthesis is then read as the group's own, and the closing one
serves both. -/
def enclosedBare (value : Reader Value) (after : List Char) : Reader Value :=
  fun ts => do
    let grouped ←
      if (expect ')' ts).isSome || startsField ts then some true else Preview.several? after
    if grouped then (value (.parenthesis after :: ts)).map fun (v, ts) => (.present v, ts)
    else enclosed value ts

def presentValue (extensions : List Extension) (value : Reader Value) : Reader Value :=
  fun ts =>
    match ts with
    | .parenthesis after :: ts =>
        if .bareVariants ∈ extensions then enclosedBare value after ts else enclosed value ts
    | _ =>
        if .implicitPresence ∈ extensions then (value ts).map fun (v, ts) => (.present v, ts)
        else none

/-- A value in which no more than `depth` values are nested and no more than `bound` stand
in one sequence. -/
def value (extensions : List Extension) (bound : Nat) : (depth : Nat) → Reader Value
  | 0, _ => none
  | depth + 1, ts =>
      let inner := value extensions bound depth
      match ts with
      | .natural n :: ts => some (.natural n, ts)
      | .literal :: ts => some (.other, ts)
      | .parenthesis _ :: ts => group bound inner ts
      | .punctuation '[' :: ts =>
          (separated ']' inner bound ts).map fun (_, ts) => (.other, ts)
      | .punctuation '{' :: ts =>
          (separated '}' (pair inner inner) bound ts).map fun (_, ts) => (.other, ts)
      | .identifier i :: ts =>
          match i.raw, i.text with
          | false, "true" => some (.boolean true, ts)
          | false, "false" => some (.boolean false, ts)
          | false, "None" => some (.absent, ts)
          | false, "Some" => presentValue extensions inner ts
          | raw, text =>
              if raw = false ∧ text ∈ Number.names then some (.other, ts)
              else if i.joined then none
              else
                match expect '(' ts with
                | some ts => group bound inner ts
                | none => some (.other, ts)
      | _ => none

def maxDepth : Nat := 128

end UniversalMachine.Document
