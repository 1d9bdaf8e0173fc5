import UniversalMachine.Document.Token

/-!
Reading from a list of tokens: punctuation, names, pairs, and sequences with commas.

A sequence is read with a bound on the number of its things. It never has more of them
than there are tokens in all, so with that number as its bound nothing is refused that
would be accepted without one.
-/

namespace UniversalMachine.Document

abbrev Reader (α : Type) :=
  List Token → Option (α × List Token)

def expect (c : Char) : List Token → Option (List Token)
  | t :: ts => if t.mark? = some c then some ts else none
  | [] => none

/-- At most `bound` things that are separated by commas, up to a closing mark. The last of
them may be followed by a comma, too. -/
def separated {α : Type} (close : Char) (item : Reader α) : (bound : Nat) → Reader (List α)
  | 0, _ => none
  | bound + 1, ts =>
      match expect close ts with
      | some ts => some ([], ts)
      | none => do
          let (x, ts) ← item ts
          match expect ',' ts with
          | some ts => do
              let (xs, ts) ← separated close item bound ts
              return (x :: xs, ts)
          | none => do return ([x], ← expect close ts)

def name : Reader String
  | .identifier i :: ts => if i.joined then none else some (i.text, ts)
  | _ => none

def pair {α β : Type} (first : Reader α) (second : Reader β) : Reader (α × β) :=
  fun ts => do
    let (a, ts) ← first ts
    let (b, ts) ← second (← expect ':' ts)
    return ((a, b), ts)

end UniversalMachine.Document
