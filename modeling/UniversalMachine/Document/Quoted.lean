import UniversalMachine.Numeral

/-!
Quoted literals: texts, characters, and their counterparts for bytes.

A document is read for its structure, so of a quoted literal only its length matters:
each function here says how many characters a literal or a part of one takes, and has no
answer if the literal is not well formed.
-/

namespace UniversalMachine.Document

/-- What a quoted literal stands for, which decides the escape sequences in it. -/
inductive Quoted where
  | text
  | character
  | bytes
  | byte
  deriving DecidableEq

namespace Quoted

def byte? (high low : Char) : Option UInt8 :=
  (Numeral.read? 16 [high, low]).map Nat.toUInt8

def isText (bytes : List UInt8) : Bool :=
  (String.fromUTF8? ⟨bytes.toArray⟩).isSome

/-- How many of the following characters are needed to complete a character of a text
that is written byte by byte, each byte as an escape sequence of its own. No character
takes more than `more` bytes beyond the given ones. -/
def continuationLength (bytes : List UInt8) : Nat → List Char → Option Nat
  | more, cs =>
      if isText bytes then some 0
      else
        match more, cs with
        | more + 1, '\\' :: 'x' :: high :: low :: rest => do
            let b ← byte? high low
            return 4 + (← continuationLength (bytes ++ [b]) more rest)
        | _, _ => none

/-- The length of an escape sequence after its backslash. A byte escape is a character
of its own in a character literal, and a part of one or a whole one in a text. -/
def escapeLength (kind : Quoted) : List Char → Option Nat
  | 'x' :: high :: low :: rest => do
      let b ← byte? high low
      match kind with
      | bytes | byte => return 3
      | character => if b < 128 then return 3 else none
      | text => return 3 + (← continuationLength [b] 3 rest)
  | 'u' :: '{' :: rest =>
      let digits := rest.takeWhile (Numeral.digitValue? · |>.isSome)
      let scalar := (Numeral.read? 16 digits).any fun n => Nat.isValidChar n
      if kind ≠ byte ∧ 0 < digits.length ∧ digits.length ≤ 6 ∧ scalar
          ∧ (rest.drop digits.length).head? = some '}' then
        some (digits.length + 3)
      else none
  | c :: _ => if c ∈ ['\'', '"', '\\', 'n', 'r', 't', '0'] then some 1 else none
  | [] => none

/-- The length of a literal in double quotes after the opening one. The next `skip`
characters belong to an escape sequence, and `taken` have been counted. -/
def closingFrom (kind : Quoted) : (skip taken : Nat) → List Char → Option Nat
  | _, _, [] => none
  | skip + 1, taken, _ :: cs => closingFrom kind skip (taken + 1) cs
  | 0, taken, '"' :: _ => some (taken + 1)
  | 0, taken, '\\' :: cs => do closingFrom kind (← escapeLength kind cs) (taken + 1) cs
  | 0, taken, _ :: cs => closingFrom kind 0 (taken + 1) cs

def length? (kind : Quoted) (cs : List Char) : Option Nat :=
  closingFrom kind 0 0 cs

/-- Whether a literal in double quotes goes on to the end of the text that follows its
opening quote. A literal with an escape sequence that is not well formed does so if no
other quote follows. The next `skip` characters belong to an escape sequence. -/
def isUnclosedFrom (kind : Quoted) : (skip : Nat) → List Char → Bool
  | _, [] => true
  | skip + 1, _ :: cs => isUnclosedFrom kind skip cs
  | 0, '"' :: _ => false
  | 0, '\\' :: cs =>
      match escapeLength kind cs with
      | some n => isUnclosedFrom kind n cs
      | none => !cs.contains '"'
  | 0, _ :: cs => isUnclosedFrom kind 0 cs

def isUnclosed (kind : Quoted) (cs : List Char) : Bool :=
  isUnclosedFrom kind 0 cs

def singleLength? (kind : Quoted) : List Char → Option Nat
  | '\\' :: cs => do
      let n ← escapeLength kind cs
      if (cs.drop n).head? = some '\'' then return n + 2 else none
  | c :: '\'' :: _ => if kind = byte ∧ 128 ≤ c.toNat then none else some 2
  | _ => none

def rawClosing (hashes taken : Nat) : List Char → Option Nat
  | [] => none
  | c :: cs =>
      if c = '"' ∧ cs.take hashes = List.replicate hashes '#' then some (taken + 1 + hashes)
      else rawClosing hashes (taken + 1) cs

def rawLength? (cs : List Char) : Option Nat :=
  let hashes := (cs.takeWhile (· = '#')).length
  match cs.drop hashes with
  | '"' :: body => (rawClosing hashes 0 body).map (hashes + 1 + ·)
  | _ => none

def isRawUnclosed (cs : List Char) : Bool :=
  (cs.drop (cs.takeWhile (· = '#')).length).head? = some '"' && (rawLength? cs).isNone

end Quoted

end UniversalMachine.Document
