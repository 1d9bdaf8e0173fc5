import Mathlib
import UniversalMachine.Proofs.Document.Lexemes

/-!
Texts in double quotes. A quoted text ends at the first quotation mark that no escape sequence
holds, and it is one token, whatever follows it.
-/

namespace UniversalMachine.Document

/-- Escape sequences, each for one byte, that complete the UTF-8 form of a character which
begins with the given bytes. -/
inductive Completion : List UInt8 → List Char → Prop
  | done {bytes : List UInt8} (complete : Quoted.isText bytes = true) : Completion bytes []
  | byte {bytes : List UInt8} {high low : Char} {b : UInt8} {more : List Char}
      (incomplete : Quoted.isText bytes = false) (digits : Quoted.byte? high low = some b)
      (completion : Completion (bytes ++ [b]) more) :
      Completion bytes ('\\' :: 'x' :: high :: low :: more)

/-- An escape sequence in a quoted text, behind its backslash. No character takes more than
four bytes, the first of which has its digits in front of the completion. -/
inductive Escape : List Char → Prop
  | mark {c : Char} (known : c ∈ ['\'', '"', '\\', 'n', 'r', 't', '0']) : Escape [c]
  | bytes {high low : Char} {b : UInt8} {more : List Char}
      (digits : Quoted.byte? high low = some b) (completion : Completion [b] more)
      (short : more.length ≤ 12) : Escape ('x' :: high :: low :: more)
  | scalar {digits : List Char} {n : ℕ} (known : digits ≠ []) (short : digits.length ≤ 6)
      (read : Numeral.read? 16 digits = some n) (valid : n.isValidChar) :
      Escape ('u' :: '{' :: (digits ++ ['}']))

/-- What is left of a quoted text behind the quotation mark that opens it, including the one
that closes it. -/
inductive Quotation : List Char → Prop
  | close : Quotation ['"']
  | char {c : Char} {more : List Char} (noQuote : c ≠ '"') (noEscape : c ≠ '\\')
      (quotation : Quotation more) : Quotation (c :: more)
  | escape {sequence more : List Char} (escape : Escape sequence) (quotation : Quotation more) :
      Quotation ('\\' :: (sequence ++ more))

namespace Quoted

theorem continuationLength_of_isText {bytes : List UInt8} (complete : isText bytes = true)
    (limit : ℕ) (cs : List Char) : continuationLength bytes limit cs = some 0 := by
  rw [continuationLength.eq_def]
  exact if_pos complete

theorem continuationLength_byte {bytes : List UInt8} {high low : Char} {b : UInt8}
    (incomplete : isText bytes = false) (digits : byte? high low = some b) (limit : ℕ)
    (cs : List Char) :
    continuationLength bytes (limit + 1) ('\\' :: 'x' :: high :: low :: cs) =
      (continuationLength (bytes ++ [b]) limit cs).map (4 + ·) := by
  rw [continuationLength.eq_def]
  simp only [incomplete, Bool.false_eq_true, if_false, digits, Option.bind_eq_bind,
    Option.bind_some, Option.pure_def, Option.map_eq_bind, Function.comp_def]

/-- Every byte escape of a completion takes four characters, so as many as they leave room for
suffice. -/
theorem continuationLength_append {bytes : List UInt8} {cs : List Char}
    (completion : Completion bytes cs) (limit : ℕ) (short : cs.length ≤ 4 * limit)
    (rest : List Char) : continuationLength bytes limit (cs ++ rest) = some cs.length := by
  induction completion generalizing limit with
  | done complete => exact continuationLength_of_isText complete limit _
  | byte incomplete digits _ ih =>
      simp only [List.length_cons] at short
      obtain ⟨limit, rfl⟩ : ∃ m, limit = m + 1 := ⟨limit - 1, by omega⟩
      have shorter := ih limit (by omega)
      simp only [List.cons_append]
      rw [continuationLength_byte incomplete digits, shorter, Option.map_some, Nat.add_comm]
      rfl

theorem escapeLength_append {sequence : List Char} (escape : Escape sequence)
    (rest : List Char) : escapeLength .text (sequence ++ rest) = some sequence.length := by
  cases escape with
  | mark known =>
      simp only [List.mem_cons, List.not_mem_nil, or_false] at known
      rcases known with rfl | rfl | rfl | rfl | rfl | rfl | rfl <;> rfl
  | bytes digits completion short =>
      have more := continuationLength_append completion 3 short rest
      simp only [List.cons_append, escapeLength, digits, more, Option.bind_eq_bind,
        Option.bind_some, Option.pure_def, List.length_cons, Nat.add_comm 3]
  | @scalar digits n known short read valid =>
      have inside : ∀ c ∈ digits, (Numeral.digitValue? c).isSome = true := by
        intro c mem
        obtain ⟨d, -, value⟩ := Numeral.exists_digit_of_read? read c mem
        exact Option.isSome_iff_exists.mpr ⟨d, value⟩
      have all : (digits ++ ('}' :: rest)).takeWhile (Numeral.digitValue? · |>.isSome) = digits :=
        takeWhile_append_of_head? inside (by rintro _ ⟨⟩; rfl)
      have accepted : Quoted.text ≠ byte ∧ 0 < digits.length ∧ digits.length ≤ 6 ∧
          ((some n).any fun n => decide n.isValidChar) = true ∧
          ('}' :: rest).head? = some '}' :=
        ⟨by decide, List.length_pos_iff.mpr known, short, decide_eq_true valid, rfl⟩
      simp only [List.cons_append, List.append_assoc, List.nil_append, escapeLength, all, read,
        List.drop_left]
      rw [if_pos accepted, List.length_cons, List.length_cons, List.length_append]
      rfl

/-- The characters of an escape sequence are passed over. -/
theorem closingFrom_append (kind : Quoted) (sequence : List Char) (taken : ℕ) (rest : List Char) :
    closingFrom kind sequence.length taken (sequence ++ rest) =
      closingFrom kind 0 (taken + sequence.length) rest := by
  induction sequence generalizing taken with
  | nil => rfl
  | cons c sequence ih =>
      rw [List.length_cons, List.cons_append, closingFrom, ih, Nat.add_assoc, Nat.add_comm 1]

theorem closingFrom_quotation {cs : List Char} (quotation : Quotation cs) (taken : ℕ)
    (rest : List Char) : closingFrom .text 0 taken (cs ++ rest) = some (taken + cs.length) := by
  induction quotation generalizing taken with
  | close => rfl
  | @char c more noQuote noEscape _ ih =>
      have passed : closingFrom .text 0 taken (c :: (more ++ rest)) =
          closingFrom .text 0 (taken + 1) (more ++ rest) :=
        closingFrom.eq_5 .text taken c _ noQuote noEscape
      rw [List.cons_append, passed, ih, List.length_cons, Nat.add_assoc, Nat.add_comm 1]
  | @escape sequence more escape _ ih =>
      have passed : closingFrom .text 0 taken ('\\' :: (sequence ++ (more ++ rest))) =
          closingFrom .text sequence.length (taken + 1) (sequence ++ (more ++ rest)) := by
        rw [closingFrom, escapeLength_append escape]
        rfl
      rw [List.cons_append, List.append_assoc, passed, closingFrom_append, ih, List.length_cons,
        List.length_append]
      congr 1
      omega

end Quoted

theorem cutInto_quotation {cs : List Char} (quotation : Quotation cs) (rest : List Char) :
    CutInto ('"' :: cs) [.literal] rest := by
  have length : Quoted.length? .text (cs ++ rest) = some cs.length := by
    rw [Quoted.length?, Quoted.closingFrom_quotation quotation, Nat.zero_add]
  refine cutInto_of_lexeme ?_
  simp only [lexeme, length, Option.map_some, Nat.zero_add]

end UniversalMachine.Document
