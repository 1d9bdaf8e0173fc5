import UniversalMachine.Document.Comment
import UniversalMachine.Document.Quoted

/-!
A look at the text in parentheses before it is read: does it hold several things, or a
single one?

The text is passed over sign by sign. In front of every sign, blanks, comments and quoted
literals are left out, so that a bracket or a comma in one of them does not count. The sign
directly behind a quoted literal is taken for itself, even where it begins a comment. A byte
in single quotes counts as a sign, its letter, and a character in single quotes. What is no
well-formed literal is a sequence of signs, but a literal in double quotes must be closed.
-/

namespace UniversalMachine.Document.Preview

def characterLength : List Char → Nat
  | '\'' :: cs => (Quoted.singleLength? .character cs).elim 0 (1 + ·)
  | _ => 0

/-- The length of a literal whose opening takes `opening` characters, zero if it is not well
formed. There is no answer if it is not closed. -/
def literalLength? (opening : Nat) (unclosed : Bool) (length? : Option Nat) : Option Nat :=
  if unclosed then none else some (length?.elim 0 (opening + ·))

def textLength? : List Char → Option Nat
  | '"' :: cs => literalLength? 1 (Quoted.isUnclosed .text cs) (Quoted.length? .text cs)
  | 'r' :: cs => literalLength? 1 (Quoted.isRawUnclosed cs) (Quoted.rawLength? cs)
  | _ => some 0

def bytesLength? : List Char → Option Nat
  | 'b' :: '"' :: cs => literalLength? 2 (Quoted.isUnclosed .bytes cs) (Quoted.length? .bytes cs)
  | 'b' :: 'r' :: cs => literalLength? 2 (Quoted.isRawUnclosed cs) (Quoted.rawLength? cs)
  | _ => some 0

def leadLength? (cs : List Char) : Option Nat := do
  let blanks ← blankLength? cs
  let character := blanks + characterLength (cs.drop blanks)
  let text := character + (← textLength? (cs.drop character))
  return text + (← bytesLength? (cs.drop text))

/-- Whether several things stand in front of the mark that closes a group, `depth` further
groups being open. The next sign comes after `lead?` characters, if that is known. -/
def severalFrom? (lead? : Option Nat) (depth : Nat) : List Char → Option Bool
  | [] => none
  | c :: cs =>
      match lead?.or (leadLength? (c :: cs)) with
      | none => none
      | some (lead + 1) => severalFrom? (some lead) depth cs
      | some 0 =>
          if ['(', '[', '{'].contains c then severalFrom? none (depth + 1) cs
          else if [')', ']', '}'].contains c then
            match depth with
            | 0 => some false
            | depth + 1 => severalFrom? none depth cs
          else if c = ',' ∧ depth = 0 then
            (blankLength? cs).map fun blanks => (cs.drop blanks).head? ≠ some ')'
          else severalFrom? none depth cs

/-- Whether several things stand in front of the mark that closes a group, given the text
after the mark that opens it. A comma after the last thing does not make it several. There
is no answer if the group or a literal is not closed, or a slash begins no comment. -/
def several? (cs : List Char) : Option Bool :=
  severalFrom? none 0 cs

end UniversalMachine.Document.Preview
