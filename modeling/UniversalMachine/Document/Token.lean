import UniversalMachine.Document.Comment
import UniversalMachine.Document.Number
import UniversalMachine.Document.Quoted

/-!
The tokens of a document.

A text is cut into lexemes from left to right. Each lexeme is the longest one that its
first characters begin; blanks and comments are lexemes without a token. A text with
characters that begin no lexeme has no tokens at all.
-/

namespace UniversalMachine.Document

/-- An identifier. The mark of a raw one is not part of its text. -/
structure Identifier where
  text : String
  raw : Bool := false
  /-- The identifier is followed, without a blank between, by a character that only a raw
  one may hold. It is then no name. -/
  joined : Bool := false
  deriving DecidableEq

inductive Token where
  | identifier (identifier : Identifier)
  /-- An integer without sign that sixty-four bits hold. -/
  | natural (n : UInt64)
  /-- Any other number, and every quoted literal. -/
  | literal
  /-- An opening parenthesis, with the text after it. -/
  | parenthesis (after : List Char)
  /-- Any other punctuation mark. -/
  | punctuation (c : Char)
  deriving DecidableEq

def Token.mark? : Token → Option Char
  | parenthesis _ => some '('
  | punctuation c => some c
  | _ => none

def punctuation : List Char :=
  [')', '[', ']', '{', '}', ',', ':', '#', '!']

def plainIdentifier (c : Char) (cs : List Char) : Identifier :=
  let more := cs.takeWhile isIdentifierContinue
  { text := String.ofList (c :: more)
    joined := (cs.drop more.length).head?.any isRawContinue }

/-- A lexeme by its first character and the text after it: its token, if it has one, and
how many characters it takes after the first. -/
def lexeme (c : Char) (cs : List Char) : Option (Option Token × Nat) :=
  let literal (lead : Nat) (length : Option Nat) : Option (Option Token × Nat) :=
    length.map fun n => (some .literal, lead + n)
  match c, cs with
  | '/', cs => (commentLength? cs).map fun n => (none, n)
  | '"', cs => literal 0 (Quoted.length? .text cs)
  | '\'', cs => literal 0 (Quoted.singleLength? .character cs)
  | 'b', '"' :: cs => literal 1 (Quoted.length? .bytes cs)
  | 'b', '\'' :: cs => literal 1 (Quoted.singleLength? .byte cs)
  | 'b', 'r' :: '"' :: cs => literal 1 (Quoted.rawLength? ('"' :: cs))
  | 'b', 'r' :: '#' :: cs => literal 1 (Quoted.rawLength? ('#' :: cs))
  | 'r', '"' :: cs => literal 0 (Quoted.rawLength? ('"' :: cs))
  | 'r', '#' :: '"' :: cs => literal 0 (Quoted.rawLength? ('#' :: '"' :: cs))
  | 'r', '#' :: '#' :: cs => literal 0 (Quoted.rawLength? ('#' :: '#' :: cs))
  | 'r', '#' :: cs =>
      let text := cs.takeWhile isRawContinue
      if text = [] then none
      else some (some (.identifier { text := String.ofList text, raw := true }), 1 + text.length)
  | '(', cs => some (some (.parenthesis cs), 0)
  | c, cs =>
      if isBlank c then some (none, (cs.takeWhile isBlank).length)
      else if punctuation.contains c then some (some (.punctuation c), 0)
      else if isIdentifierStart c then
        some (some (.identifier (plainIdentifier c cs)),
          (cs.takeWhile isIdentifierContinue).length)
      else if c.isDigit || ['+', '-', '.'].contains c then
        (Number.read? (c :: cs)).map fun number =>
          (some (number.natural?.elim .literal .natural), number.length - 1)
      else none

/-- The tokens of a text, the first `skip` characters of which belong to the lexeme
before it. -/
def tokensFrom : (skip : Nat) → List Char → Option (List Token)
  | _, [] => some []
  | skip + 1, _ :: cs => tokensFrom skip cs
  | 0, c :: cs =>
      match lexeme c cs with
      | some (token, n) => (tokensFrom n cs).map (token.toList ++ ·)
      | none => none

def tokens (text : String) : Option (List Token) :=
  tokensFrom 0 text.toList

theorem tokensFrom_eq_drop (skip : Nat) (cs : List Char) :
    tokensFrom skip cs = tokensFrom 0 (cs.drop skip) := by
  induction cs generalizing skip with
  | nil => simp [tokensFrom]
  | cons c cs ih =>
    cases skip with
    | zero => rfl
    | succ skip => simpa [tokensFrom] using ih skip

theorem tokensFrom_cons {c : Char} {cs : List Char} {token : Option Token} {n : Nat}
    (read : lexeme c cs = some (token, n)) :
    tokensFrom 0 (c :: cs) = (tokensFrom 0 (cs.drop n)).map (token.toList ++ ·) := by
  simp only [tokensFrom, read, ← tokensFrom_eq_drop]

end UniversalMachine.Document
