import Mathlib
import UniversalMachine.Document.Token
import UniversalMachine.Numeral.Lemmas

/-!
Where an identifier and a number end. Both reach as far as their characters do, so what
follows has to begin with a delimiter. In front of one, decimal digits are a number of
exactly these digits: as an integer, and as a decimal fraction where sixty-four bits do
not hold it.
-/

namespace UniversalMachine.Document

/-- A character at which every identifier and every number ends. -/
def isDelimiter (c : Char) : Bool :=
  !isRawContinue c && !isDigitOrSeparator c && !Number.isFractionPart c &&
    !(['"', '\'', '#'].contains c)

/-- A text is at its end, or begins with a delimiter. -/
def Delimited (rest : List Char) : Prop :=
  ∀ c ∈ rest.head?, isDelimiter c = true

section
variable {c : Char} (delimiter : isDelimiter c = true)
include delimiter

theorem delimited_cons (cs : List Char) : Delimited (c :: cs) := by
  rintro _ ⟨⟩
  exact delimiter

theorem isRawContinue_eq_false : isRawContinue c = false := by
  simp_all [isDelimiter]

theorem isIdentifierContinue_eq_false : isIdentifierContinue c = false := by
  simp_all [isDelimiter, isRawContinue]

theorem isDigitOrSeparator_eq_false : isDigitOrSeparator c = false := by
  simp_all [isDelimiter]

theorem isFractionPart_eq_false : Number.isFractionPart c = false := by
  simp_all [isDelimiter]

theorem notMem_quotes : c ∉ ['"', '\'', '#'] := by
  simp_all [isDelimiter]

end

section
variable {rest : List Char} (delimited : Delimited rest)
include delimited

theorem takeWhile_isIdentifierContinue_append {cs : List Char}
    (inside : ∀ c ∈ cs, isIdentifierContinue c = true) :
    (cs ++ rest).takeWhile isIdentifierContinue = cs :=
  takeWhile_append_of_head? inside fun c mem => isIdentifierContinue_eq_false (delimited c mem)

theorem takeWhile_isIdentifierContinue_eq_nil : rest.takeWhile isIdentifierContinue = [] :=
  takeWhile_isIdentifierContinue_append delimited (List.forall_mem_nil _)

end

theorem mem_digits_of_isDigit {c : Char} (digit : c.isDigit = true) :
    c ∈ ['0', '1', '2', '3', '4', '5', '6', '7', '8', '9'] := by
  obtain ⟨low, high⟩ : 48 ≤ c.toNat ∧ c.toNat ≤ 57 := Char.isDigit_iff_toNat.mp digit
  have same : c = Char.ofNat c.toNat := (Char.ofNat_toNat c).symm
  generalize c.toNat = n at low high same
  subst same
  interval_cases n <;> decide

/-- What holds of every digit can be checked for the ten of them. -/
theorem all_digits {p : Char → Bool}
    (all : ['0', '1', '2', '3', '4', '5', '6', '7', '8', '9'].all p = true) {c : Char}
    (digit : c.isDigit = true) : p c = true :=
  List.all_eq_true.mp all c (mem_digits_of_isDigit digit)

theorem isIdentifierContinue_of_isDigit {c : Char} (digit : c.isDigit = true) :
    isIdentifierContinue c = true :=
  all_digits rfl digit

theorem isDigitOrSeparator_of_isDigit {c : Char} (digit : c.isDigit = true) :
    isDigitOrSeparator c = true :=
  all_digits rfl digit

theorem isFractionPart_of_isDigit {c : Char} (digit : c.isDigit = true) :
    Number.isFractionPart c = true := by
  rw [Number.isFractionPart, digit, Bool.true_or]

theorem ne_separator_of_isDigit {c : Char} (digit : c.isDigit = true) : c ≠ '_' := by
  rintro rfl
  cases digit

namespace Number

theorem signLength_of_isDigit {c : Char} (digit : c.isDigit = true) (cs : List Char) :
    signLength (c :: cs) = 0 := by
  rw [signLength.eq_def]
  split
  next same =>
      cases same
      cases digit
  next same =>
      cases same
      cases digit
  next => rfl

theorem filter_separator_of_isDigit {ds : List Char} (digits : ∀ d ∈ ds, d.isDigit = true) :
    ds.filter (· ≠ '_') = ds :=
  List.filter_eq_self.mpr fun d mem => decide_eq_true (ne_separator_of_isDigit (digits d mem))

theorem withoutSeparators_of_isDigit {ds : List Char} (digits : ∀ d ∈ ds, d.isDigit = true)
    (allowed : Bool) : withoutSeparators allowed ds = some ds := by
  induction ds generalizing allowed with
  | nil => rfl
  | cons d ds ih =>
      obtain ⟨digit, digits⟩ := List.forall_mem_cons.mp digits
      simp only [withoutSeparators, ne_separator_of_isDigit digit, if_false, ih digits,
        Option.map_some]

/-- Digits are followed by more digits up to the delimiter. -/
theorem isDigit_or_isDelimiter {d : Char} {ds rest after : List Char}
    (digits : ∀ d ∈ ds, d.isDigit = true) (delimited : Delimited rest)
    (same : ds ++ rest = d :: after) : d.isDigit = true ∨ isDelimiter d = true := by
  cases ds with
  | nil =>
      obtain rfl : rest = d :: after := same
      exact .inr (delimited d rfl)
  | cons d' ds =>
      obtain ⟨rfl, -⟩ := List.cons.inj same
      exact .inl (digits d' List.mem_cons_self)

section
variable {c : Char} {ds rest : List Char} (digits : ∀ d ∈ c :: ds, d.isDigit = true)
  (delimited : Delimited rest)
include digits

theorem isMantissa_digits : isMantissa (c :: ds) = true := by
  have whole : (c :: ds).takeWhile Char.isDigit = c :: ds := List.takeWhile_eq_self_iff.mpr digits
  simp only [isMantissa, whole, List.drop_length]
  rfl

theorem isFraction_digits : isFraction (c :: ds) = true := by
  have noExponent : (c :: ds).takeWhile (fun d => d != 'e' && d != 'E') = c :: ds :=
    List.takeWhile_eq_self_iff.mpr fun d mem =>
      all_digits (p := fun d => d != 'e' && d != 'E') rfl (digits d mem)
  simp only [isFraction, signLength_of_isDigit (digits c List.mem_cons_self), List.drop_zero,
    noExponent, isMantissa_digits digits, List.drop_length]
  rfl

/-- Digits are no name of a number. -/
theorem notMem_names_of_digits : String.ofList (c :: ds) ∉ names := by
  intro mem
  have letter : ∀ name ∈ names, name.toList.head?.any Char.isDigit = false := by decide
  have first := letter _ mem
  rw [String.toList_ofList, List.head?_cons, Option.any_some, digits c List.mem_cons_self] at first
  cases first

include delimited

/-- Digits in front of a delimiter have no mark of a base. -/
theorem base_digits_append : base (c :: ds ++ rest) = (10, 0) := by
  have behind {mark : Char} {after : List Char} (same : c :: ds ++ rest = '0' :: mark :: after) :
      mark.isDigit = true ∨ isDelimiter mark = true :=
    isDigit_or_isDelimiter (List.forall_mem_cons.mp digits).2 delimited (List.cons.inj same).2
  rw [base.eq_def]
  split
  next same => exact absurd (behind same) (by decide)
  next same => exact absurd (behind same) (by decide)
  next same => exact absurd (behind same) (by decide)
  next => rfl

theorem takeWhile_isDigitOrSeparator :
    (c :: ds ++ rest).takeWhile isDigitOrSeparator = c :: ds :=
  takeWhile_append_of_head? (fun d mem => isDigitOrSeparator_of_isDigit (digits d mem))
    fun d mem => isDigitOrSeparator_eq_false (delimited d mem)

theorem takeWhile_isFractionPart :
    (c :: ds ++ rest).takeWhile isFractionPart = c :: ds :=
  takeWhile_append_of_head? (fun d mem => isFractionPart_of_isDigit (digits d mem))
    fun d mem => isFractionPart_eq_false (delimited d mem)

theorem integer?_digits_append {n : ℕ} (read : Numeral.read? 10 (c :: ds) = some n) :
    integer? (c :: ds ++ rest) =
      if n < 2 ^ 64 then
        some { length := (c :: ds).length, natural? := some (UInt64.ofNat n) }
      else none := by
  have digit : c.isDigit = true := digits c List.mem_cons_self
  have sign : signLength (c :: ds ++ rest) = 0 := signLength_of_isDigit digit _
  have notSeparator : c ≠ '_' := ne_separator_of_isDigit digit
  have notSign : c ≠ '-' := by
    rintro rfl
    cases digit
  have noSuffix :
      suffixes.lookup (String.ofList []) = some (-0x8000000000000000, 0xFFFFFFFFFFFFFFFF) :=
    rfl
  have bound : n < 2 ^ 64 ↔ n ≤ 0xFFFFFFFFFFFFFFFF := Nat.lt_succ_iff
  rw [integer?]
  simp only [bound, sign, base_digits_append digits delimited, Nat.add_zero, Nat.zero_add,
    List.drop_zero, takeWhile_isDigitOrSeparator digits delimited,
    filter_separator_of_isDigit digits, read, List.drop_left,
    takeWhile_isIdentifierContinue_eq_nil delimited, noSuffix]
  by_cases small : n ≤ 0xFFFFFFFFFFFFFFFF <;> simp [notSeparator, notSign, small, guard]

theorem fraction?_digits_append :
    fraction? (c :: ds ++ rest) = some { length := (c :: ds).length } := by
  have sign : signLength (c :: ds ++ rest) = 0 :=
    signLength_of_isDigit (digits c List.mem_cons_self) _
  have name : (c :: ds ++ rest).takeWhile isIdentifierContinue = c :: ds :=
    takeWhile_isIdentifierContinue_append delimited fun d mem =>
      isIdentifierContinue_of_isDigit (digits d mem)
  rw [fraction?]
  simp only [sign, List.drop_zero, name, notMem_names_of_digits digits, if_false,
    takeWhile_isFractionPart digits delimited, withoutSeparators_of_isDigit digits,
    Option.any_some, isFraction_digits digits, List.drop_left,
    takeWhile_isIdentifierContinue_eq_nil delimited]
  rfl

/-- Digits in front of a delimiter are an integer if sixty-four bits hold it, or else a
decimal fraction. -/
theorem read?_digits_append {n : ℕ} (read : Numeral.read? 10 (c :: ds) = some n) :
    read? (c :: ds ++ rest) =
      some { length := (c :: ds).length
             natural? := if n < 2 ^ 64 then some (UInt64.ofNat n) else none } := by
  rw [read?, integer?_digits_append digits delimited read, fraction?_digits_append digits delimited]
  by_cases small : n < 2 ^ 64
  · simp only [small, if_true, lt_irrefl, if_false]
  · simp only [small, if_false]
    rfl

end

end Number

end UniversalMachine.Document
