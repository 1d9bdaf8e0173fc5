import UniversalMachine.Document.Reader

/-!
Extensions, which a document may ask for before its name and its fields.
-/

namespace UniversalMachine.Document

inductive Extension where
  /-- A present value needs no mark. -/
  | implicitPresence
  /-- A value that is wrapped by a name needs no parentheses; no setting has such a value. -/
  | bareWrappers
  /-- A group that a present value wraps needs no parentheses of its own. -/
  | bareVariants
  /-- A document must have a name. -/
  | mandatoryName
  deriving DecidableEq

def Extension.ofName? : String → Option Extension
  | "implicit_some" => some .implicitPresence
  | "unwrap_newtypes" => some .bareWrappers
  | "unwrap_variant_newtypes" => some .bareVariants
  | "explicit_struct_names" => some .mandatoryName
  | _ => none

def extension : Reader Extension :=
  fun ts => do
    let (text, ts) ← name ts
    return (← Extension.ofName? text, ts)

/-- One request for extensions, at least one and at most `bound`, after its opening
mark. -/
def request (bound : Nat) : Reader (List Extension) :=
  fun ts => do
    match ← expect '[' (← expect '!' ts) with
    | .identifier i :: ts =>
        if i.raw = false ∧ i.text = "enable" then do
          let (extensions, ts) ← separated ')' extension bound (← expect '(' ts)
          if extensions = [] then none else return (extensions, ← expect ']' ts)
        else none
    | _ => none

def requests : (bound : Nat) → Reader (List Extension)
  | 0, ts => some ([], ts)
  | bound + 1, ts =>
      match expect '#' ts with
      | none => some ([], ts)
      | some ts => do
          let (extensions, ts) ← request (bound + 1) ts
          let (more, ts) ← requests bound ts
          return (extensions ++ more, ts)

end UniversalMachine.Document
