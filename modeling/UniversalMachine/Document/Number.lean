import UniversalMachine.Document.Alphabet

/-!
Numbers.

An integer is an optional sign, an optional mark of its base, digits that may be
separated after the first one, and, in base ten or two, an optional suffix that names the
type it must fit. A decimal fraction has digits, a point and an exponent in the usual
order, or is a name for an infinity or for no number. Where both readings are possible the
longer one counts, and of two equally long ones the integer.
-/

namespace UniversalMachine.Document

/-- A number: how many characters it takes, and its value if that is an integer that
sixty-four bits without sign hold and that no suffix assigns to another type. -/
structure Number where
  length : Nat
  natural? : Option UInt64 := none
  deriving DecidableEq

namespace Number

def signLength : List Char → Nat
  | '+' :: _ | '-' :: _ => 1
  | _ => 0

/-- The suffixes of integers with the least and the greatest value that each allows. -/
def suffixes : List (String × Int × Int) :=
  [("", -0x8000000000000000, 0xFFFFFFFFFFFFFFFF),
    ("i8", -0x80, 0x7F), ("i16", -0x8000, 0x7FFF), ("i32", -0x80000000, 0x7FFFFFFF),
    ("i64", -0x8000000000000000, 0x7FFFFFFFFFFFFFFF),
    ("u8", 0, 0xFF), ("u16", 0, 0xFFFF), ("u32", 0, 0xFFFFFFFF),
    ("u64", 0, 0xFFFFFFFFFFFFFFFF)]

/-- Whether an integer of a base may have a suffix. The letters of the other marks are no
hexadecimal digits, and only such digits and separators may stand between the sign and a
suffix. -/
def takesSuffix (base : Nat) : Bool :=
  base == 2 || base == 10

def base : List Char → Nat × Nat
  | '0' :: 'b' :: _ => (2, 2)
  | '0' :: 'o' :: _ => (8, 2)
  | '0' :: 'x' :: _ => (16, 2)
  | _ => (10, 0)

def integer? (cs : List Char) : Option Number := do
  let sign := signLength cs
  let (base, mark) := base (cs.drop sign)
  let digits := (cs.drop (sign + mark)).takeWhile isDigitOrSeparator
  guard (digits ≠ [] ∧ digits.head? ≠ some '_')
  let n ← Numeral.read? base (digits.filter (· ≠ '_'))
  let value : Int := if cs.head? = some '-' then -n else n
  let length := sign + mark + digits.length
  let suffix := (cs.drop length).takeWhile isIdentifierContinue
  guard (suffix = [] ∨ takesSuffix base)
  let (least, greatest) ← suffixes.lookup (String.ofList suffix)
  guard (least ≤ value ∧ value ≤ greatest)
  let natural? :=
    if String.ofList suffix ∈ ["", "u64"] ∧ 0 ≤ value then some value.toNat.toUInt64 else none
  return { length := length + suffix.length, natural? }

def isFractionPart (c : Char) : Bool :=
  c.isDigit || ['e', 'E', '.', '+', '-', '_'].contains c

/-- Takes the separators out of a decimal fraction. They may stand after a digit or the
mark of the exponent, but neither at the start nor after the point. -/
def withoutSeparators (allowed : Bool) : List Char → Option (List Char)
  | [] => some []
  | c :: cs =>
      if c = '_' then if allowed then withoutSeparators allowed cs else none
      else
        let allowed := c != '.' && (allowed || c.isDigit || c == 'e' || c == 'E')
        (withoutSeparators allowed cs).map (c :: ·)

def isMantissa (cs : List Char) : Bool :=
  let whole := cs.takeWhile Char.isDigit
  match cs.drop whole.length with
  | [] => whole != []
  | point :: fraction => point == '.' && fraction.all Char.isDigit && whole ++ fraction != []

/-- Whether a text may follow a mantissa: it is empty, or a mark with digits after it,
which may have a sign. -/
def isExponent : List Char → Bool
  | [] => true
  | _ :: cs =>
      let digits := cs.drop (signLength cs)
      digits != [] && digits.all Char.isDigit

def isFraction (cs : List Char) : Bool :=
  let unsigned := cs.drop (signLength cs)
  let mantissa := unsigned.takeWhile fun c => c != 'e' && c != 'E'
  isMantissa mantissa && isExponent (unsigned.drop mantissa.length)

def fractionSuffixes : List String :=
  ["", "f32", "f64"]

def names : List String :=
  ["inf", "NaN"].flatMap fun name => fractionSuffixes.map (name ++ ·)

def fraction? (cs : List Char) : Option Number := do
  let sign := signLength cs
  let name := (cs.drop sign).takeWhile isIdentifierContinue
  if String.ofList name ∈ names then return { length := sign + name.length }
  let part := cs.takeWhile isFractionPart
  guard ((withoutSeparators false part).any isFraction)
  let suffix := (cs.drop part.length).takeWhile isIdentifierContinue
  let known := String.ofList suffix ∈ fractionSuffixes
  return { length := part.length + if known then suffix.length else 0 }

def read? (cs : List Char) : Option Number :=
  match integer? cs, fraction? cs with
  | some integer, some fraction =>
      some (if integer.length < fraction.length then fraction else integer)
  | integer?, fraction? => integer? <|> fraction?

end Number

end UniversalMachine.Document
