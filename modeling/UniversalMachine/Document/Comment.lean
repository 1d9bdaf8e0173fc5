import UniversalMachine.Document.Alphabet

/-!
Comments. A line comment reaches to the end of its line, and a block comment to the mark
that closes it; block comments nest. Comments may stand wherever blanks may.
-/

namespace UniversalMachine.Document

/-- The length of what is left of a block comment, `depth` further ones being open
around it. -/
def commentClosing (depth taken : Nat) : List Char → Option Nat
  | '/' :: '*' :: cs => commentClosing (depth + 1) (taken + 2) cs
  | '*' :: '/' :: cs =>
      match depth with
      | 0 => some (taken + 2)
      | depth + 1 => commentClosing depth (taken + 2) cs
  | _ :: cs => commentClosing depth (taken + 1) cs
  | [] => none

def commentLength? : List Char → Option Nat
  | '/' :: cs => some (1 + (cs.takeWhile (· ≠ '\n')).length)
  | '*' :: cs => (commentClosing 0 0 cs).map (1 + ·)
  | _ => none

/-- The length of the blanks and comments at the start of a text. The next `skip`
characters belong to a comment, and `taken` have been counted. There is no answer if a
slash begins no comment. -/
def blankLengthFrom? : (skip taken : Nat) → List Char → Option Nat
  | _, taken, [] => some taken
  | skip + 1, taken, _ :: cs => blankLengthFrom? skip (taken + 1) cs
  | 0, taken, c :: cs =>
      if c = '/' then (commentLength? cs).bind fun n => blankLengthFrom? n (taken + 1) cs
      else if isBlank c then blankLengthFrom? 0 (taken + 1) cs
      else some taken

def blankLength? (cs : List Char) : Option Nat :=
  blankLengthFrom? 0 0 cs

end UniversalMachine.Document
