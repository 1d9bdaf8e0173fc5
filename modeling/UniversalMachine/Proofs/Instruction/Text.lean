import Mathlib
import UniversalMachine.Disassembly
import UniversalMachine.Numeral.Lemmas

/-!
Which instructions are written alike. The first word of a text ends at the first blank; it
settles the kind of the instruction and its operation. Registers and numbers are written in
full behind it. So the text hides the registers that the operation does not use, and nothing
else.
-/

namespace UniversalMachine

/-! ### Words, registers and numbers in a text -/

/-- The first word of a text ends at the first blank. -/
theorem takeWhile_word {s : String} (word : ' ' ∉ s.toList) (t : String) :
    (s ++ " " ++ t).toList.takeWhile (· ≠ ' ') = s.toList := by
  have nonblank : ∀ c ∈ s.toList, decide (c ≠ ' ') = true := by
    intro c mem
    exact decide_eq_true fun h => word (h ▸ mem)
  rw [String.toList_append, String.toList_append, List.append_assoc,
    List.takeWhile_append_of_pos nonblank]
  exact List.append_nil s.toList

theorem Register.toList_text (r : Register) : r.text.toList = ['r', Nat.digitChar r] := by
  decide +revert

theorem Register.text_append_inj {r r' : Register} {s s' : String}
    (same : r.text ++ s = r'.text ++ s') : r = r' ∧ s = s' := by
  have chars := congrArg String.toList same
  simp only [String.toList_append, Register.toList_text, List.cons_append, List.nil_append,
    List.cons.injEq, true_and, String.toList_inj] at chars
  refine ⟨?_, chars.2⟩
  have digit := chars.1
  clear same chars
  decide +revert

/-- Two lists of as many registers with one text are the same. -/
theorem Register.eq_of_intercalate_text {rs rs' : List Register}
    (length : rs.length = rs'.length)
    (same : ", ".intercalate (rs.map text) = ", ".intercalate (rs'.map text)) : rs = rs' := by
  induction rs generalizing rs' with
  | nil => exact (List.length_eq_zero_iff.mp length.symm).symm
  | cons r rs ih =>
      obtain ⟨r', rs', rfl⟩ := List.exists_cons_of_length_eq_add_one length.symm
      have length' : rs.length = rs'.length := Nat.succ_inj.mp length
      -- There is no comma behind the last register.
      cases rs with
      | nil =>
          obtain rfl := List.length_eq_zero_iff.mp length'.symm
          have last : r.text ++ "" = r'.text ++ "" := congrArg (· ++ "") same
          rw [(text_append_inj last).1]
      | cons q qs =>
          obtain ⟨q', qs', rfl⟩ := List.exists_cons_of_length_eq_add_one length'.symm
          simp only [List.map_cons, String.intercalate_cons_cons, String.append_assoc] at same
          obtain ⟨rfl, rest⟩ := text_append_inj same
          rw [ih length' ((String.append_right_inj _).mp rest)]

theorem blank_notMem_repr (n : ℕ) : ' ' ∉ n.repr.toList := by
  intro mem
  rw [Nat.repr, String.toList_ofList] at mem
  exact absurd (Nat.isDigit_of_mem_toDigits (by decide) (Nat.le_refl 10) mem) (by decide)

theorem Operator.mnemonic_injective : Function.Injective mnemonic := by
  intro op op' same
  cases op <;> cases op' <;> first | rfl | exact absurd same (by decide)

theorem Operator.mnemonic_ne (op : Operator) :
    op.mnemonic ≠ "HALT" ∧ op.mnemonic ≠ "LDI" ∧ op.mnemonic ≠ "ILLEGAL" := by
  cases op <;> decide

namespace Instruction

/-! ### The text of an instruction -/

/-- The first word of the text of an instruction. -/
def keyword : Instruction → String
  | standard op _ => op.mnemonic
  | halt => "HALT"
  | loadImmediate _ _ => "LDI"
  | illegal _ => "ILLEGAL"

theorem text_loadImmediate (a : Register) (value : Word) :
    (loadImmediate a value).text = "LDI" ++ " " ++
      (a.text ++ (", #" ++ (value.toNat.repr ++ " " ++
        ("(x" ++ Numeral.text 16 7 value.toNat ++ ")")))) := by
  have opening : "LDI" ++ " " = "LDI " := by decide
  have bracket (s : String) : s ++ " " ++ "(x" = s ++ " (x" := by
    rw [String.append_assoc]
    exact congrArg (s ++ ·) (by decide)
  simp only [← String.append_assoc, opening, bracket]
  rfl

theorem text_illegal (code : UInt8) :
    (illegal code).text = "ILLEGAL" ++ " " ++ ("x" ++ Numeral.text 16 2 code.toNat) := by
  have opening : "ILLEGAL" ++ " " ++ "x" = "ILLEGAL x" := by decide
  rw [← String.append_assoc, opening]
  rfl

theorem takeWhile_text (i : Instruction) :
    i.text.toList.takeWhile (· ≠ ' ') = i.keyword.toList := by
  cases i with
  | standard op o =>
      refine takeWhile_word ?_ _
      cases op <;> decide
  | halt => rfl
  | loadImmediate a value =>
      rw [text_loadImmediate]
      exact takeWhile_word (by decide) _
  | illegal code =>
      rw [text_illegal]
      exact takeWhile_word (by decide) _

theorem keyword_eq_of_text_eq {i j : Instruction} (same : i.text = j.text) :
    i.keyword = j.keyword := by
  rw [← String.toList_inj, ← takeWhile_text, ← takeWhile_text, same]

/-- Two instructions that differ at most in registers that their operation does not use. -/
inductive Alike : Instruction → Instruction → Prop
  | standard {op : Operator} {o o' : Operands} (used : op.registers o = op.registers o') :
      Alike (standard op o) (standard op o')
  | halt : Alike halt halt
  | loadImmediate (a : Register) (value : Word) :
      Alike (loadImmediate a value) (loadImmediate a value)
  | illegal (code : UInt8) : Alike (illegal code) (illegal code)

theorem Alike.text_eq {i j : Instruction} (alike : i.Alike j) : i.text = j.text := by
  cases alike with
  | standard used => simp only [text, used]
  | halt | loadImmediate | illegal => rfl

/-- The text of an instruction says all about it but for the registers that are not used. -/
theorem text_eq_iff {i j : Instruction} : i.text = j.text ↔ i.Alike j := by
  refine ⟨fun same => ?_, Alike.text_eq⟩
  have key := keyword_eq_of_text_eq same
  cases i with
  | standard op o =>
      cases j with
      | standard op' o' =>
          obtain rfl := Operator.mnemonic_injective key
          refine .standard (Register.eq_of_intercalate_text ?_ ?_)
          · cases op <;> rfl
          · exact (String.append_right_inj _).mp same
      | halt => exact absurd key op.mnemonic_ne.1
      | loadImmediate => exact absurd key op.mnemonic_ne.2.1
      | illegal => exact absurd key op.mnemonic_ne.2.2
  | halt =>
      cases j with
      | halt => exact .halt
      | standard op => exact absurd key.symm op.mnemonic_ne.1
      | loadImmediate | illegal => simp [keyword] at key
  | loadImmediate a value =>
      cases j with
      | loadImmediate a' value' =>
          rw [text_loadImmediate, text_loadImmediate, String.append_right_inj] at same
          obtain ⟨rfl, rest⟩ := Register.text_append_inj same
          rw [String.append_right_inj] at rest
          have decimal := congrArg (·.toList.takeWhile (· ≠ ' ')) rest
          simp only [takeWhile_word (blank_notMem_repr _), String.toList_inj, Nat.repr_inj,
            UInt32.toNat_inj] at decimal
          rw [decimal]
          exact .loadImmediate a value'
      | standard op => exact absurd key.symm op.mnemonic_ne.2.1
      | halt | illegal => simp [keyword] at key
  | illegal code =>
      cases j with
      | illegal code' =>
          rw [text_illegal, text_illegal, String.append_right_inj, String.append_right_inj]
            at same
          have value := Numeral.text_injective (by decide) (Nat.le_refl 16) 2 same
          rw [UInt8.toNat_inj.mp value]
          exact .illegal code'
      | standard op => exact absurd key.symm op.mnemonic_ne.2.2
      | halt | loadImmediate => simp [keyword] at key

end Instruction

end UniversalMachine
