/-!
Texts as the system keeps them: the words of a command line, the values of environment
variables, the paths of files. They are bytes, and need not encode a Unicode text.
-/

namespace UniversalMachine

inductive SystemText where
  | unicode (text : String)
  | other (bytes : List UInt8) (invalid : String.fromUTF8? ⟨bytes.toArray⟩ = none)
  deriving DecidableEq

namespace SystemText

/-- The ranges of the bytes that follow a first byte in the encoding of a character. -/
def continuations (first : UInt8) : List (UInt8 × UInt8) :=
  if first < 0xC2 then []
  else if first < 0xE0 then [(0x80, 0xBF)]
  else if first < 0xF0 then
    let second := if first = 0xE0 then (0xA0, 0xBF) else if first = 0xED then (0x80, 0x9F)
      else (0x80, 0xBF)
    [second, (0x80, 0xBF)]
  else if first < 0xF5 then
    let second := if first = 0xF0 then (0x90, 0xBF) else if first = 0xF4 then (0x80, 0x8F)
      else (0x80, 0xBF)
    [second, (0x80, 0xBF), (0x80, 0xBF)]
  else []

/-- The characters that bytes encode, once some bytes have been passed over. Where no encoding
goes on as the bytes do, the bytes of the broken one are shown as a single replacement
character. -/
def lossy : Nat → List UInt8 → List Char
  | _, [] => []
  | passed + 1, _ :: bytes => lossy passed bytes
  | 0, first :: bytes =>
      let following := (bytes.zip (continuations first)).takeWhile fun (byte, low, high) =>
        low ≤ byte && byte ≤ high
      let character := String.fromUTF8? ⟨(first :: following.map (·.1)).toArray⟩
      (character.getD "\uFFFD").toList ++ lossy following.length bytes

def display : SystemText → String
  | unicode text => text
  | other bytes _ => .ofList (lossy 0 bytes)

/-- The texts of some words, or the first of the words that is not Unicode. -/
def texts : List SystemText → Except SystemText (List String)
  | [] => .ok []
  | unicode text :: words => (texts words).map (text :: ·)
  | other bytes invalid :: _ => .error (.other bytes invalid)

theorem texts_unicode (ts : List String) : texts (ts.map unicode) = .ok ts := by
  induction ts with
  | nil => rfl
  | cons t ts ih => rw [List.map_cons, texts, ih, Except.map]

theorem texts_other (ts : List String) {bytes : List UInt8}
    (invalid : String.fromUTF8? ⟨bytes.toArray⟩ = none) (more : List SystemText) :
    texts (ts.map unicode ++ other bytes invalid :: more) = .error (.other bytes invalid) := by
  induction ts with
  | nil => rfl
  | cons t ts ih => rw [List.map_cons, List.cons_append, texts, ih, Except.map]

theorem texts_cases (words : List SystemText) :
    (∃ ts : List String, words = ts.map unicode) ∨
      ∃ (ts : List String) (bytes : List UInt8)
        (invalid : String.fromUTF8? ⟨bytes.toArray⟩ = none) (more : List SystemText),
        words = ts.map unicode ++ other bytes invalid :: more := by
  induction words with
  | nil => exact .inl ⟨[], rfl⟩
  | cons word words ih =>
      cases word with
      | other bytes invalid => exact .inr ⟨[], bytes, invalid, words, rfl⟩
      | unicode text =>
          obtain ⟨ts, rfl⟩ | ⟨ts, bytes, invalid, more, rfl⟩ := ih
          · exact .inl ⟨text :: ts, rfl⟩
          · exact .inr ⟨text :: ts, bytes, invalid, more, rfl⟩

/-- A byte that begins no encoding and an encoding that breaks off are shown as one character
each. -/
example : display (.other [0xFF, 0x61, 0xE2, 0x82, 0x62] (by decide +kernel)) =
    "\uFFFDa\uFFFDb" := by
  decide +kernel

end SystemText

end UniversalMachine
