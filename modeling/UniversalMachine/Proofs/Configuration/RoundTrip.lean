import Mathlib
import UniversalMachine.Configuration.Printer
import UniversalMachine.Configuration.Reader
import UniversalMachine.Proofs.Document.Lexemes
import UniversalMachine.Proofs.Document.Readers

/-!
Writing a configuration and reading it back. The text of a configuration is cut into the
tokens of its two fields, and these are read as a document that stands for the same
configuration; so different configurations have different texts.
-/

namespace UniversalMachine.Configuration

open Document

/-- The tokens of a limit, in front of `rest`. -/
def limitTokens (rest : List Char) : Option UInt64 → List Token
  | none => [.identifier { text := "None" }]
  | some n =>
      [.identifier { text := "Some" },
        .parenthesis (Numeral.digits 10 n.toNat ++ [')'] ++ rest), .natural n, .punctuation ')']

theorem cutInto_limitText (limit : Option UInt64) {rest : List Char} (delimited : Delimited rest) :
    CutInto (limitText limit).toList (limitTokens rest limit) rest := by
  cases limit with
  | none => exact cutInto_identifier (by decide +kernel) delimited
  | some n =>
      have pieces : (limitText (some n)).toList =
          "Some".toList ++ (['('] ++ (Numeral.digits 10 n.toNat ++ [')'])) := by
        simp [limitText, Numeral.decimal, String.toList_append]
      have number : CutInto (Numeral.digits 10 n.toNat) [.natural n] ([')'] ++ rest) :=
        numberToken_toNat n ▸ cutInto_digits n.toNat (delimited_cons (by decide) rest)
      have closing : CutInto [')'] [.punctuation ')'] rest := cutInto_punctuation (by decide) rest
      rw [pieces, limitTokens]
      exact (cutInto_identifier (by decide +kernel) (delimited_cons (by decide) _)).cons
        ((cutInto_parenthesis _).cons (number.cons closing))

theorem cutInto_switchText (b : Bool) {rest : List Char} (delimited : Delimited rest) :
    CutInto (switchText b).toList [.identifier { text := switchText b }] rest :=
  cutInto_identifier (by cases b <;> decide +kernel) delimited

/-- The line of a field has the tokens of the field and a comma. -/
theorem cutInto_line (f : WrittenField) (identifier : isIdentifier f.name = true)
    {value : String} {rest : List Char}
    (cut : CutInto value.toList f.tokens (',' :: '\n' :: rest)) :
    CutInto (line f.name value).toList (f.allTokens ++ [.punctuation ',']) rest := by
  have pieces : (line f.name value).toList =
      List.replicate 4 ' ' ++
        (f.name.toList ++ ([':'] ++ ([' '] ++ (value.toList ++ [',', '\n'])))) := by
    simp [line, String.toList_append]
  have blank (more : List Char) : CutInto [' '] [] more := cutInto_blank rfl more
  have ending : CutInto [',', '\n'] [.punctuation ','] rest :=
    (cutInto_punctuation (by decide) ('\n' :: rest)).append (cutInto_blank rfl rest)
  rw [pieces, WrittenField.allTokens, List.cons_append, List.cons_append]
  exact (cutInto_blanks (fun c mem => List.eq_of_mem_replicate mem ▸ rfl) _).skip
    ((cutInto_identifier identifier (delimited_cons (by decide) _)).cons
      ((cutInto_punctuation (by decide) _).cons ((blank _).skip (cut.append ending))))

def limitValue : Option UInt64 → Value
  | none => .absent
  | some n => .present (.natural n)

theorem reads_limitTokens (bound depth : ℕ) (limit : Option UInt64) (rest : List Char) :
    Reads (value [] bound (depth + 2)) (limitTokens rest limit) (limitValue limit) := by
  cases limit with
  | none => exact reads_value_absent [] bound (depth + 1)
  | some n => exact reads_value_present List.not_mem_nil (reads_value_natural [] bound depth n) _

def limitField (rest : List Char) (limit : Option UInt64) : WrittenField where
  name := maxStepsField
  tokens := limitTokens rest limit
  value := limitValue limit
  reads bound := reads_limitTokens bound 126 limit rest

def switchField (b : Bool) : WrittenField where
  name := flushEachOutputField
  tokens := [.identifier { text := switchText b }]
  value := .boolean b
  reads bound := reads_value_boolean [] bound 127 b

theorem tokens_text (c : Configuration) :
    ∃ after rest, tokens (text c) = some (.parenthesis after ::
      fieldsTokens [limitField rest c.maxSteps, switchField c.flushEachOutput]) := by
  have pieces : (text c).toList =
      ['('] ++ (['\n'] ++ ((line maxStepsField (limitText c.maxSteps)).toList ++
        ((line flushEachOutputField (switchText c.flushEachOutput)).toList ++ [')']))) := by
    simp [text, String.toList_append]
  have switch : CutInto (line flushEachOutputField (switchText c.flushEachOutput)).toList
      ((switchField c.flushEachOutput).allTokens ++ [.punctuation ',']) [')'] :=
    cutInto_line (switchField c.flushEachOutput)
      (by decide +kernel : isIdentifier flushEachOutputField = true)
      (cutInto_switchText c.flushEachOutput (delimited_cons (by decide) _))
  have limit (rest : List Char) : CutInto (line maxStepsField (limitText c.maxSteps)).toList
      ((limitField (',' :: '\n' :: rest) c.maxSteps).allTokens ++ [.punctuation ',']) rest :=
    cutInto_line (limitField _ c.maxSteps) (by decide +kernel : isIdentifier maxStepsField = true)
      (cutInto_limitText c.maxSteps (delimited_cons (by decide) _))
  have lines := (limit _).append (switch.append (cutInto_punctuation (by decide) []))
  have lineBreak (rest : List Char) : CutInto ['\n'] [] rest := cutInto_blank rfl rest
  have whole := (cutInto_parenthesis _).cons ((lineBreak _).skip lines)
  rw [← pieces] at whole
  simp only [fieldsTokens_cons, fieldsTokens_nil]
  exact ⟨_, _, whole.tokens_eq⟩

theorem read?_text (c : Configuration) :
    Document.read? (text c) = some
      { fields := [(maxStepsField, limitValue c.maxSteps),
          (flushEachOutputField, .boolean c.flushEachOutput)] } := by
  obtain ⟨after, rest, cut⟩ := tokens_text c
  rw [Document.read?, cut, Option.bind_some, ofTokens?_fields]
  rfl

theorem ofDocument?_fields (c : Configuration) :
    ofDocument?
      { fields := [(maxStepsField, limitValue c.maxSteps),
          (flushEachOutputField, .boolean c.flushEachOutput)] } = some c := by
  obtain ⟨limit, switch⟩ := c
  cases limit <;> rfl

/-- Reading the text of a configuration gives the configuration back, with and without a limit
and for every limit that sixty-four bits hold; so no two configurations have the same text. -/
theorem reading_inverts_writing :
    (∀ c : Configuration, ofText? (text c) = some c) ∧ Function.Injective text := by
  have inverts (c : Configuration) : ofText? (text c) = some c := by
    rw [ofText?, read?_text, Option.bind_some, ofDocument?_fields]
  refine ⟨inverts, fun c c' same => ?_⟩
  have read : ofText? (text c) = ofText? (text c') := congrArg ofText? same
  rw [inverts, inverts] at read
  exact Option.some.inj read

/-- The greatest limit there is. -/
example : text { maxSteps := some 0xFFFFFFFFFFFFFFFF, flushEachOutput := true } =
    "(\n    max_steps: Some(18446744073709551615),\n    flush_each_output: true,\n)" := by
  decide +kernel

end UniversalMachine.Configuration
