import UniversalMachine.Proofs.Instruction.Decode
import UniversalMachine.Proofs.Instruction.Text

/-!
What a listing keeps. A line begins with the offset and the word, each written in full and ended
by a character that is no digit; so both can be read back, and a listing determines its
program. The text at the end of a line keeps less: the operation code of the word and those of
its fields that the operation uses.
-/

namespace UniversalMachine

namespace Instruction

/-! ### The fields that a text shows -/

/-- The fields of a word that its text shows besides the operation code, each by its highest
and its lowest bit. -/
def printedFields (code : Word) : List (ℕ × ℕ) :=
  match code with
  | 0 | 1 | 2 | 3 | 4 | 5 | 6 => [(8, 6), (5, 3), (2, 0)]
  | 8 | 12 => [(5, 3), (2, 0)]
  | 9 | 10 | 11 => [(2, 0)]
  | 13 => [(27, 25), (24, 0)]
  | _ => []

theorem Alike.code_eq {i j : Instruction} (alike : i.Alike j) : i.code = j.code := by
  cases alike <;> rfl

theorem alike_standard_iff {op : Operator} {o o' : Operands} :
    Alike (standard op o) (standard op o') ↔ op.registers o = op.registers o' := by
  constructor
  · rintro ⟨used⟩
    exact used
  · exact .standard

theorem alike_loadImmediate_iff {a a' : Register} {value value' : Word} :
    Alike (loadImmediate a value) (loadImmediate a' value') ↔ a = a' ∧ value = value' := by
  constructor
  · rintro ⟨⟩
    exact ⟨rfl, rfl⟩
  · rintro ⟨rfl, rfl⟩
    exact .loadImmediate a value

theorem exists_code (w : Word) :
    ∃ n < 16, w.field 31 28 = n.toUInt32 ∧ w.toNat / 2 ^ 28 = n := by
  have fits := w.toNat_lt
  refine ⟨w.toNat / 2 ^ 28, by omega, ?_, rfl⟩
  rw [← UInt32.toNat_inj, Word.toNat_field w (by decide) (by decide), Nat.toUInt32_eq,
    UInt32.toNat_ofNat']
  omega

theorem code_decode (w : Word) : (decode w).code.toUInt32 = w.field 31 28 := by
  obtain ⟨n, small, top, quotient⟩ := exists_code w
  rw [decode_eq_ofNat, ofNat, quotient, top]
  interval_cases n <;> rfl

/-- Three bits are all there is to the name of a register. -/
theorem ofField_field_eq_iff (w w' : Word) (hi lo : ℕ) (width : hi = lo + 2) (top : hi < 32) :
    Register.ofField (w.field hi lo) = Register.ofField (w'.field hi lo) ↔
      w.field hi lo = w'.field hi lo := by
  have bits : hi + 1 - lo = 3 := by omega
  have small (w : Word) : (w.field hi lo).toNat < 8 := by
    rw [Word.toNat_field w (by omega) top, bits]
    exact Nat.mod_lt _ (by decide)
  rw [Fin.ext_iff, ← UInt32.toNat_inj]
  change _ % 8 = _ % 8 ↔ _
  rw [Nat.mod_eq_of_lt (small w), Nat.mod_eq_of_lt (small w')]

/-- Of two words with one operation code, the instructions are alike if and only if the words
agree on the printed fields. -/
theorem decode_alike_iff {w w' : Word} (same : w.field 31 28 = w'.field 31 28) :
    (decode w).Alike (decode w') ↔
      ∀ bits ∈ printedFields (w.field 31 28), w.field bits.1 bits.2 = w'.field bits.1 bits.2 := by
  have a := ofField_field_eq_iff w w' 8 6 rfl (by decide)
  have b := ofField_field_eq_iff w w' 5 3 rfl (by decide)
  have c := ofField_field_eq_iff w w' 2 0 rfl (by decide)
  have target := ofField_field_eq_iff w w' 27 25 rfl (by decide)
  obtain ⟨n, small, top, -⟩ := exists_code w
  simp only [decode, ← same, top]
  interval_cases n
  case «7» => exact iff_of_true .halt (List.forall_mem_nil _)
  case «14» | «15» => exact iff_of_true (.illegal _) (List.forall_mem_nil _)
  case «13» =>
    refine alike_loadImmediate_iff.trans ?_
    change _ ↔ ∀ bits ∈ [(27, 25), (24, 0)], w.field bits.1 bits.2 = w'.field bits.1 bits.2
    simp [target]
  case «8» | «12» =>
    refine alike_standard_iff.trans ?_
    change _ ↔ ∀ bits ∈ [(5, 3), (2, 0)], w.field bits.1 bits.2 = w'.field bits.1 bits.2
    simp [Operator.registers, Operands.decode, b, c]
  case «9» | «10» | «11» =>
    refine alike_standard_iff.trans ?_
    change _ ↔ ∀ bits ∈ [(2, 0)], w.field bits.1 bits.2 = w'.field bits.1 bits.2
    simp [Operator.registers, Operands.decode, c]
  all_goals
    refine alike_standard_iff.trans ?_
    change _ ↔ ∀ bits ∈ [(8, 6), (5, 3), (2, 0)], w.field bits.1 bits.2 = w'.field bits.1 bits.2
    simp [Operator.registers, Operands.decode, a, b, c]

theorem text_decode_eq_iff (w w' : Word) :
    (decode w).text = (decode w').text ↔ w.field 31 28 = w'.field 31 28 ∧
      ∀ bits ∈ printedFields (w.field 31 28), w.field bits.1 bits.2 = w'.field bits.1 bits.2 := by
  rw [text_eq_iff]
  constructor
  · intro alike
    have same : w.field 31 28 = w'.field 31 28 := by
      rw [← code_decode, ← code_decode, alike.code_eq]
    exact ⟨same, (decode_alike_iff same).mp alike⟩
  · rintro ⟨same, fields⟩
    exact (decode_alike_iff same).mpr fields

end Instruction

namespace Disassembly

/-! ### Reading a line -/

/-- The offset and the word of a line: the numeral in front of the first colon, and the one
between the blank behind the colon and the next blank. -/
def read? (line : String) : Option (ℕ × Word) := do
  let offset := line.toList.takeWhile (· ≠ ':')
  let word := (line.toList.drop (offset.length + 2)).takeWhile (· ≠ ' ')
  return (← Numeral.read? 10 offset, (← Numeral.read? 16 word).toUInt32)

theorem toList_line (offset : ℕ) (w : Word) :
    (line offset w).toList = Numeral.padded 10 6 offset ++ ':' :: ' ' ::
      (Numeral.padded 16 8 w.toNat ++ ' ' :: ' ' :: (Instruction.decode w).text.toList) := by
  simp [line, Numeral.text, toString]

theorem read?_line (offset : ℕ) (w : Word) : read? (line offset w) = some (offset, w) := by
  have skipped (digits rest : List Char) :
      (digits ++ ':' :: ' ' :: rest).drop (digits.length + 2) = rest := by
    rw [List.drop_length_add_append]
    rfl
  have toColon := Numeral.takeWhile_padded_append (by decide : 1 < 10) (by decide) 6 offset
    (by decide : Numeral.digitValue? ':' = none)
  have toBlank := Numeral.takeWhile_padded_append (by decide : 1 < 16) (by decide) 8 w.toNat
    (by decide : Numeral.digitValue? ' ' = none)
  simp only [read?, toList_line, toColon, skipped, toBlank]
  rw [Numeral.read?_padded (by decide) (by decide), Numeral.read?_padded (by decide) (by decide)]
  exact congrArg (fun word => some (offset, word)) UInt32.ofNat_toNat

theorem map_read?_lines (ws : Array Word) :
    (lines ws).map read? = ws.mapIdx fun offset w => some (offset, w) := by
  apply Array.ext_getElem?
  intro i
  simp only [lines, Array.getElem?_map, Array.getElem?_mapIdx, Option.map_map, Function.comp_def,
    read?_line]

theorem lines_injective : Function.Injective lines := by
  intro ws ws' same
  have read := congrArg (Array.map read?) same
  simp only [map_read?_lines] at read
  have entries (i : ℕ) : ws[i]? = ws'[i]? := by
    have entry := congrArg (·[i]?) read
    simp only [Array.getElem?_mapIdx] at entry
    refine Option.map_injective (fun w w' same => ?_) entry
    exact (Prod.mk.inj (Option.some.inj same)).2
  exact Array.ext_getElem? entries

/-- A listing has a line for each word, from which the word and its offset can be read, however
many digits the offset has. So the listing of a program is that of no other. The texts of two
words are the same if and only if the words have the same operation code and agree on every
field that the text shows. -/
theorem listing_lossless :
    (∀ ws, (lines ws).size = ws.size) ∧
      (∀ ws, (lines ws).map read? = ws.mapIdx fun offset w => some (offset, w)) ∧
      (∀ offset w, read? (line offset w) = some (offset, w)) ∧
      Function.Injective lines ∧
      ∀ w w' : Word, (Instruction.decode w).text = (Instruction.decode w').text ↔
        w.field 31 28 = w'.field 31 28 ∧ ∀ bits ∈ Instruction.printedFields (w.field 31 28),
          w.field bits.1 bits.2 = w'.field bits.1 bits.2 :=
  ⟨fun _ => Array.size_mapIdx, map_read?_lines, read?_line, lines_injective,
    Instruction.text_decode_eq_iff⟩

/-- The offset takes seven digits, one more than its column. -/
example : read? "1000000: D2000003  LDI r1, #3 (x0000003)" = some (1000000, 0xD2000003) := by
  decide +kernel

end Disassembly

end UniversalMachine
