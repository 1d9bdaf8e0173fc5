import Mathlib
import UniversalMachine.Numeral

/-!
What numerals are made of. Whatever reads as a number consists of digits of the base; so a
written number ends where a character follows that is no digit.
-/

namespace UniversalMachine

/-- What a class of characters takes of a text ends where a character outside it follows. -/
theorem takeWhile_append_of_head? {p : Char → Bool} {cs rest : List Char}
    (inside : ∀ c ∈ cs, p c = true) (outside : ∀ c ∈ rest.head?, p c = false) :
    (cs ++ rest).takeWhile p = cs := by
  rw [List.takeWhile_append_of_pos inside]
  cases rest with
  | nil => rw [List.takeWhile_nil, List.append_nil]
  | cons c rest =>
      have stop : ¬ p c = true := Bool.eq_false_iff.mp (outside c rfl)
      rw [List.takeWhile_cons_of_neg stop, List.append_nil]

namespace Numeral

theorem shiftIn?_eq_some {base n n' : ℕ} {c : Char} (shifted : shiftIn? base n c = some n') :
    ∃ d < base, digitValue? c = some d := by
  obtain ⟨d, value, rest⟩ := Option.bind_eq_some_iff.mp shifted
  split at rest
  next digit => exact ⟨d, digit, value⟩
  next => cases rest

theorem exists_digit_of_read? {base n : ℕ} {cs : List Char} (read : read? base cs = some n) :
    ∀ c ∈ cs, ∃ d < base, digitValue? c = some d := by
  rw [read?] at read
  generalize 0 = start at read
  induction cs generalizing start with
  | nil => exact fun c mem => absurd mem List.not_mem_nil
  | cons c cs ih =>
      rw [List.foldlM_cons] at read
      obtain ⟨next, shifted, rest⟩ := Option.bind_eq_some_iff.mp read
      exact List.forall_mem_cons.mpr ⟨shiftIn?_eq_some shifted, ih next rest⟩

theorem isDigit_of_digitValue? {c : Char} {d : ℕ} (value : digitValue? c = some d)
    (decimal : d < 10) : c.isDigit = true := by
  rw [digitValue?] at value
  split_ifs at value with digit
  · exact Char.isDigit_iff_toNat.mpr digit
  -- A letter stands for ten or more.
  all_goals
    obtain rfl := Option.some.inj value
    omega

section
variable {base : ℕ} (low : 1 < base) (high : base ≤ 16)
include low high

theorem exists_digit_of_mem_padded {width n : ℕ} {c : Char} (mem : c ∈ padded base width n) :
    ∃ d < base, digitValue? c = some d :=
  exists_digit_of_read? (read?_padded low high width n) c mem

/-- A written number is all in front of the first character that is no digit. -/
theorem takeWhile_padded_append (width n : ℕ) {stop : Char} (noDigit : digitValue? stop = none)
    (rest : List Char) :
    (padded base width n ++ stop :: rest).takeWhile (· ≠ stop) = padded base width n := by
  have others : ∀ c ∈ padded base width n, decide (c ≠ stop) = true := by
    intro c mem
    obtain ⟨d, -, value⟩ := exists_digit_of_mem_padded low high mem
    refine decide_eq_true fun same => ?_
    rw [same, noDigit] at value
    cases value
  exact takeWhile_append_of_head? others (by simp)

theorem text_injective (width : ℕ) : Function.Injective (text base width) := by
  intro n n' same
  have read := congrArg (fun s => read? base s.toList) same
  simp only [text, String.toList_ofList, read?_padded low high] at read
  exact Option.some.inj read

end

end Numeral

end UniversalMachine
