/-!
Numerals: writing and reading natural numbers in a base from two to sixteen.

Numbers are written with upper-case letters and, where a column is wanted, filled
up with zeros on the left; they are read with letters in either case. The main
statement is `read?_padded`: reading a written number gives the number back,
whatever the width of its column.
-/

namespace UniversalMachine.Numeral

def digits (base n : Nat) : List Char :=
  (Nat.toDigits base n).map Char.toUpper

/-- The digits of a number, filled up with zeros on the left to at least `width`
characters. A number that needs more characters is written in full. -/
def padded (base width n : Nat) : List Char :=
  (digits base n).leftpad width '0'

def text (base width n : Nat) : String :=
  String.ofList (padded base width n)

def decimal (n : Nat) : String :=
  String.ofList (digits 10 n)

/-- The value of a digit; the letters from `a` to `f` stand for ten to fifteen in
either case. -/
def digitValue? (c : Char) : Option Nat :=
  if '0' ≤ c ∧ c ≤ '9' then some (c.toNat - '0'.toNat)
  else if 'a' ≤ c ∧ c ≤ 'f' then some (c.toNat - 'a'.toNat + 10)
  else if 'A' ≤ c ∧ c ≤ 'F' then some (c.toNat - 'A'.toNat + 10)
  else none

def shiftIn? (base n : Nat) (c : Char) : Option Nat :=
  (digitValue? c).bind fun d => if d < base then some (base * n + d) else none

/-- The number that a sequence of digits stands for, if all of them are digits of
the base. The empty sequence stands for zero. -/
def read? (base : Nat) (cs : List Char) : Option Nat :=
  cs.foldlM (shiftIn? base) 0

theorem digitValue?_digitChar {d : Nat} (h : d < 16) :
    digitValue? (Nat.digitChar d).toUpper = some d := by
  have all : ∀ d : Fin 16, digitValue? (Nat.digitChar d).toUpper = some d.val := by decide
  exact all ⟨d, h⟩

theorem read?_append_singleton (base : Nat) (cs : List Char) (c : Char) :
    read? base (cs ++ [c]) = (read? base cs).bind (shiftIn? base · c) := by
  simp [read?, List.foldlM_append, bind, Option.bind_fun_some]

theorem read?_digits {base : Nat} (low : 1 < base) (high : base ≤ 16) (n : Nat) :
    read? base (digits base n) = some n := by
  induction n using Nat.strongRecOn with
  | ind n ih =>
    by_cases h : n < base
    · simp [digits, Nat.toDigits_of_lt_base h, read?, shiftIn?,
        digitValue?_digitChar (Nat.lt_of_lt_of_le h high), h]
    · have digit : n % base < base := Nat.mod_lt n (by omega)
      have less : n / base < n := Nat.div_lt_self (by omega) low
      have step := ih (n / base) less
      simp only [digits] at step ⊢
      rw [Nat.toDigits_of_base_le low (by omega), List.map_append, List.map_singleton,
        read?_append_singleton, step]
      simp [shiftIn?, digitValue?_digitChar (Nat.lt_of_lt_of_le digit high), digit,
        Nat.div_add_mod]

theorem read?_replicate_zero_append {base : Nat} (pos : 0 < base) (k : Nat) (cs : List Char) :
    read? base (List.replicate k '0' ++ cs) = read? base cs := by
  induction k with
  | zero => simp
  | succ k ih =>
    have zero : shiftIn? base 0 '0' = some 0 := by
      simp [shiftIn?, digitValue?, pos]
    rw [List.replicate_succ, List.cons_append, read?, List.foldlM_cons, zero]
    simpa [read?] using ih

theorem read?_padded {base : Nat} (low : 1 < base) (high : base ≤ 16) (width n : Nat) :
    read? base (padded base width n) = some n := by
  rw [padded, List.leftpad, read?_replicate_zero_append (by omega), read?_digits low high]

end UniversalMachine.Numeral
