import UniversalMachine.Numeral
import UniversalMachine.Document.IdentifierRanges

/-!
The classes of characters that the text of a document is made of: blanks, which
separate tokens, and the characters of identifiers.
-/

namespace UniversalMachine.Document

/-- The characters that count as white space: space, tab, line feed, vertical tab, form
feed, carriage return, next line, the two direction marks, and the line and the paragraph
separator. -/
def blanks : List Char :=
  [' ', '\t', '\n', '\x0B', '\x0C', '\r', '\u0085', '\u200E', '\u200F', '\u2028', '\u2029']

def isBlank (c : Char) : Bool :=
  blanks.contains c

def isIdentifierStart (c : Char) : Bool :=
  c == '_' || inRanges c.toNat startRanges

def isIdentifierContinue (c : Char) : Bool :=
  inRanges c.toNat startRanges || inRanges c.toNat continueRanges

/-- The characters of a raw identifier, which is marked as such and may hold more than
a plain one. -/
def isRawContinue (c : Char) : Bool :=
  isIdentifierContinue c || ['.', '+', '-'].contains c

def isDigitOrSeparator (c : Char) : Bool :=
  (Numeral.digitValue? c).isSome || c == '_'

end UniversalMachine.Document
