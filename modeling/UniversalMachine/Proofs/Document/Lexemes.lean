import Mathlib
import UniversalMachine.Proofs.Document.Delimiters

/-!
How a text is cut into tokens, piece by piece. A piece that is cut into tokens of its own in
front of what follows it leaves the rest to be cut alone, so the pieces of a text can be
treated one after the other. Blanks and punctuation are such pieces wherever they stand,
identifiers and decimal numbers in front of a delimiter.
-/

namespace UniversalMachine.Document

/-- In front of `rest`, a text is cut into the tokens `ts`. -/
def CutInto (cs : List Char) (ts : List Token) (rest : List Char) : Prop :=
  tokensFrom 0 (cs ++ rest) = (tokensFrom 0 rest).map (ts ++ ·)

theorem CutInto.nil (rest : List Char) : CutInto [] [] rest :=
  Option.map_id_apply.symm

theorem CutInto.append {cs cs' rest : List Char} {ts ts' : List Token}
    (first : CutInto cs ts (cs' ++ rest)) (second : CutInto cs' ts' rest) :
    CutInto (cs ++ cs') (ts ++ ts') rest := by
  rw [CutInto, List.append_assoc, first, second, Option.map_map]
  congr 1
  funext more
  exact (List.append_assoc ts ts' more).symm

theorem CutInto.cons {cs cs' rest : List Char} {t : Token} {ts : List Token}
    (first : CutInto cs [t] (cs' ++ rest)) (second : CutInto cs' ts rest) :
    CutInto (cs ++ cs') (t :: ts) rest :=
  first.append second

theorem CutInto.skip {cs cs' rest : List Char} {ts : List Token}
    (first : CutInto cs [] (cs' ++ rest)) (second : CutInto cs' ts rest) :
    CutInto (cs ++ cs') ts rest :=
  first.append second

theorem CutInto.tokensFrom_append {cs rest : List Char} (cut : CutInto cs [] rest) :
    tokensFrom 0 (cs ++ rest) = tokensFrom 0 rest := by
  rw [cut]
  exact Option.map_id_apply

/-- A text that is cut in front of its end has the tokens that it is cut into. -/
theorem CutInto.tokens_eq {s : String} {ts : List Token} (cut : CutInto s.toList ts []) :
    tokens s = some ts := by
  rw [CutInto, List.append_nil] at cut
  rw [tokens, cut, tokensFrom, Option.map_some, List.append_nil]

theorem cutInto_of_lexeme {c : Char} {cs rest : List Char} {token : Token}
    (read : lexeme c (cs ++ rest) = some (some token, cs.length)) :
    CutInto (c :: cs) [token] rest := by
  rw [CutInto, List.cons_append, tokensFrom_cons read, List.drop_left]
  rfl

theorem lexeme_blank {c : Char} (blank : isBlank c = true) (cs : List Char) :
    lexeme c cs = some (none, (cs.takeWhile isBlank).length) := by
  have mem : c ∈ blanks := List.contains_iff_mem.mp blank
  simp only [blanks, List.mem_cons, List.not_mem_nil, or_false] at mem
  rcases mem with rfl | rfl | rfl | rfl | rfl | rfl | rfl | rfl | rfl | rfl | rfl <;> rfl

/-- The blanks that a text begins with are one lexeme, which can also be taken apart. -/
theorem tokensFrom_drop_blanks (cs : List Char) :
    tokensFrom 0 (cs.drop (cs.takeWhile isBlank).length) = tokensFrom 0 cs := by
  cases cs with
  | nil => rfl
  | cons c cs =>
      by_cases blank : isBlank c
      · rw [tokensFrom_cons (lexeme_blank blank cs), List.takeWhile_cons_of_pos blank]
        exact Option.map_id_apply.symm
      · rw [List.takeWhile_cons_of_neg blank]
        rfl

theorem cutInto_blank {c : Char} (blank : isBlank c = true) (rest : List Char) :
    CutInto [c] [] rest := by
  rw [CutInto, List.singleton_append, tokensFrom_cons (lexeme_blank blank rest),
    tokensFrom_drop_blanks]
  rfl

theorem cutInto_blanks {cs : List Char} (blank : ∀ c ∈ cs, isBlank c = true) (rest : List Char) :
    CutInto cs [] rest := by
  induction cs with
  | nil => exact CutInto.nil rest
  | cons c cs ih =>
      obtain ⟨first, blank⟩ := List.forall_mem_cons.mp blank
      exact (cutInto_blank first (cs ++ rest)).skip (ih blank)

theorem cutInto_punctuation {c : Char} (mark : c ∈ punctuation) (rest : List Char) :
    CutInto [c] [.punctuation c] rest := by
  refine cutInto_of_lexeme ?_
  simp only [punctuation, List.mem_cons, List.not_mem_nil, or_false] at mark
  rcases mark with rfl | rfl | rfl | rfl | rfl | rfl | rfl | rfl | rfl <;> rfl

theorem cutInto_parenthesis (rest : List Char) : CutInto ['('] [.parenthesis rest] rest :=
  cutInto_of_lexeme rfl

/-- No quotation mark stands behind the first characters of an identifier. -/
theorem notMem_quotes_of_append_eq {w rest before after : List Char} {q : Char}
    (inside : ∀ c ∈ w, isIdentifierContinue c = true) (delimited : Delimited rest)
    (joined : ∀ c ∈ before, isIdentifierContinue c = true)
    (same : w ++ rest = before ++ q :: after) : q ∉ ['"', '\'', '#'] := by
  intro quote
  have outside : isIdentifierContinue q = false := by
    simp only [List.mem_cons, List.not_mem_nil, or_false] at quote
    rcases quote with rfl | rfl | rfl <;> decide
  -- Both sides begin with the longest run of characters that continue an identifier.
  have taken := congrArg (List.takeWhile isIdentifierContinue) same
  rw [takeWhile_isIdentifierContinue_append delimited inside,
    takeWhile_append_of_head? joined (by simpa using outside)] at taken
  subst taken
  obtain rfl := List.append_cancel_left same
  exact notMem_quotes (delimited q rfl) quote

theorem not_contains_of_isIdentifierStart {c : Char} {cs : List Char}
    (others : cs.all (!isIdentifierStart ·) = true) (start : isIdentifierStart c = true) :
    cs.contains c = false := by
  rw [← Bool.not_eq_true, List.contains_iff_mem]
  intro mem
  have other := List.all_eq_true.mp others c mem
  rw [start] at other
  cases other

theorem plainIdentifier_append {c : Char} {w rest : List Char}
    (inside : ∀ c ∈ w, isIdentifierContinue c = true) (delimited : Delimited rest) :
    plainIdentifier c (w ++ rest) = { text := String.ofList (c :: w) } := by
  have joined : rest.head?.any isRawContinue = false := by
    cases rest with
    | nil => rfl
    | cons q rest => exact isRawContinue_eq_false (delimited q rfl)
  simp only [plainIdentifier, takeWhile_isIdentifierContinue_append delimited inside,
    List.drop_left, joined]

theorem lexeme_identifier {c : Char} {w rest : List Char} (start : isIdentifierStart c = true)
    (inside : ∀ c ∈ w, isIdentifierContinue c = true) (delimited : Delimited rest) :
    lexeme c (w ++ rest) =
      some (some (.identifier { text := String.ofList (c :: w) }), w.length) := by
  have quotes (before : List Char) {after : List Char} {q : Char} :
      (∀ c ∈ before, isIdentifierContinue c = true) →
        w ++ rest = before ++ q :: after → q ∉ ['"', '\'', '#'] :=
    notMem_quotes_of_append_eq inside delimited
  have noBlank : isBlank c = false :=
    not_contains_of_isIdentifierStart (by decide +kernel : blanks.all _ = true) start
  have noMark : punctuation.contains c = false :=
    not_contains_of_isIdentifierStart (by decide +kernel) start
  unfold lexeme
  -- The marks of a literal hold a quotation mark, so none of them begins the text.
  split
  case h_4 same | h_5 same | h_8 same | h_9 same | h_10 same | h_11 same =>
    exact absurd (quotes [] (by simp) same) (by decide)
  case h_6 same | h_7 same =>
    exact absurd (quotes ['r'] (List.forall_mem_singleton.mpr rfl) same) (by decide)
  case h_13 =>
    simp only [noBlank, noMark, start, plainIdentifier_append inside delimited,
      takeWhile_isIdentifierContinue_append delimited inside, Bool.false_eq_true, if_false,
      if_true]
  all_goals exact absurd start (by decide)

/-- A text is a plain identifier as it stands. -/
def isIdentifier (s : String) : Bool :=
  match s.toList with
  | [] => false
  | c :: cs => isIdentifierStart c && cs.all isIdentifierContinue

theorem cutInto_identifier {s : String} (identifier : isIdentifier s = true) {rest : List Char}
    (delimited : Delimited rest) : CutInto s.toList [.identifier { text := s }] rest := by
  obtain ⟨cs, rfl⟩ : ∃ cs, s = String.ofList cs := ⟨s.toList, String.ofList_toList.symm⟩
  rw [isIdentifier, String.toList_ofList] at identifier
  rw [String.toList_ofList]
  cases cs with
  | nil => cases identifier
  | cons c cs =>
      obtain ⟨start, inside⟩ := Bool.and_eq_true_iff.mp identifier
      exact cutInto_of_lexeme (lexeme_identifier start (List.all_eq_true.mp inside) delimited)

theorem isRawContinue_ne {c q : Char} (inside : isRawContinue c = true)
    (outside : isRawContinue q = false) : c ≠ q := by
  rintro rfl
  cases inside.symm.trans outside

/-- The mark of a raw identifier is none of a raw literal, for it has no quotation mark and no
hash mark behind it. -/
theorem lexeme_rawIdentifier {c : Char} {w rest : List Char}
    (inside : ∀ d ∈ c :: w, isRawContinue d = true) (delimited : Delimited rest) :
    lexeme 'r' ('#' :: (c :: w ++ rest)) =
      some (some (.identifier { text := String.ofList (c :: w), raw := true }),
        1 + (c :: w).length) := by
  have taken : (c :: w ++ rest).takeWhile isRawContinue = c :: w :=
    takeWhile_append_of_head? inside fun d mem => isRawContinue_eq_false (delimited d mem)
  have first : isRawContinue c = true := inside c List.mem_cons_self
  unfold lexeme
  split
  case h_9 same =>
    obtain ⟨rfl, -⟩ := List.cons.inj (List.cons.inj same).2
    exact absurd rfl (isRawContinue_ne first (by decide))
  case h_10 same =>
    obtain ⟨rfl, -⟩ := List.cons.inj (List.cons.inj same).2
    exact absurd rfl (isRawContinue_ne first (by decide))
  case h_11 same =>
    obtain ⟨-, rfl⟩ := List.cons.inj same
    simp only [taken, List.cons_ne_nil, if_false]
  all_goals simp_all

theorem cutInto_rawIdentifier {s : String} (nonempty : s.toList ≠ [])
    (inside : ∀ c ∈ s.toList, isRawContinue c = true) {rest : List Char}
    (delimited : Delimited rest) :
    CutInto ('r' :: '#' :: s.toList) [.identifier { text := s, raw := true }] rest := by
  obtain ⟨cs, rfl⟩ : ∃ cs, s = String.ofList cs := ⟨s.toList, String.ofList_toList.symm⟩
  rw [String.toList_ofList] at nonempty inside ⊢
  cases cs with
  | nil => exact absurd rfl nonempty
  | cons c cs =>
      have read := lexeme_rawIdentifier inside delimited
      rw [Nat.add_comm] at read
      exact cutInto_of_lexeme read

/-- The token of a decimal number without sign. -/
def numberToken (n : ℕ) : Token :=
  if n < 2 ^ 64 then .natural (UInt64.ofNat n) else .literal

theorem numberToken_toNat (n : UInt64) : numberToken n.toNat = .natural n := by
  rw [numberToken, if_pos n.toNat_lt, UInt64.ofNat_toNat]

theorem lexeme_digits {c : Char} {ds rest : List Char} {n : ℕ}
    (read : Numeral.read? 10 (c :: ds) = some n) (delimited : Delimited rest) :
    lexeme c (ds ++ rest) = some (some (numberToken n), ds.length) := by
  have digits : ∀ d ∈ c :: ds, d.isDigit = true := by
    intro d mem
    obtain ⟨value, low, known⟩ := Numeral.exists_digit_of_read? read d mem
    exact Numeral.isDigit_of_digitValue? known low
  have digit : c.isDigit = true := digits c List.mem_cons_self
  have others : (!isBlank c && !punctuation.contains c && !isIdentifierStart c) = true :=
    all_digits (p := fun c => !isBlank c && !punctuation.contains c && !isIdentifierStart c)
      rfl digit
  simp only [Bool.and_eq_true, Bool.not_eq_true'] at others
  obtain ⟨⟨noBlank, noMark⟩, noStart⟩ := others
  have number := Number.read?_digits_append digits delimited read
  rw [List.cons_append] at number
  unfold lexeme
  split
  case h_13 =>
    simp only [noBlank, noMark, noStart, digit, number, Bool.false_eq_true, if_false,
      Bool.true_or, if_true, Option.map_some, List.length_cons, Nat.add_sub_cancel, numberToken]
    split <;> rfl
  all_goals cases digit

theorem cutInto_padded (width n : ℕ) {rest : List Char} (delimited : Delimited rest) :
    CutInto (Numeral.padded 10 width n) [numberToken n] rest := by
  have read := Numeral.read?_padded (by decide : 1 < 10) (by decide) width n
  cases same : Numeral.padded 10 width n with
  | nil =>
      have someDigits : Numeral.digits 10 n ≠ [] := by
        simp [Numeral.digits, Nat.toDigits_ne_nil]
      exact absurd (List.append_eq_nil_iff.mp same).2 someDigits
  | cons c ds =>
      rw [same] at read
      exact cutInto_of_lexeme (lexeme_digits read delimited)

theorem cutInto_digits (n : ℕ) {rest : List Char} (delimited : Delimited rest) :
    CutInto (Numeral.digits 10 n) [numberToken n] rest := by
  have unpadded : Numeral.padded 10 0 n = Numeral.digits 10 n := by
    rw [Numeral.padded, List.leftpad, Nat.zero_sub, List.replicate_zero, List.nil_append]
  exact unpadded ▸ cutInto_padded 0 n delimited

end UniversalMachine.Document
