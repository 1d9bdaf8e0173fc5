import Mathlib
import UniversalMachine.Proofs.Document.Lexemes

/-!
What may stand between two tokens: blanks, line comments and block comments, as many as one
likes and in any order. Such a gap has no tokens, whatever follows it, and it begins with a
delimiter, so that an identifier and a number end in front of it. At the end of a text, the
gaps are all the texts that have no tokens; no result rests on that, but it says that none is
missing in the layouts of a document.
-/

namespace UniversalMachine.Document

/-- What is left of a block comment behind the mark that opens it, up to the end of the mark
that closes it. Inside, either mark counts wherever it stands: the first opens a comment of
its own, with a body of its own. -/
inductive CommentBody : List Char → Prop
  | close : CommentBody ['*', '/']
  | nest {inner rest : List Char} (nested : CommentBody inner) (more : CommentBody rest) :
      CommentBody ('/' :: '*' :: (inner ++ rest))
  | char {c : Char} {rest : List Char} (opensNone : c = '/' → rest.head? ≠ some '*')
      (closesNone : c = '*' → rest.head? ≠ some '/') (more : CommentBody rest) :
      CommentBody (c :: rest)

/-- Blanks and comments in front of a token. A line comment includes the line break that ends
it. -/
inductive Gap : List Char → Prop
  | nil : Gap []
  | blank {c : Char} {more : List Char} (blank : isBlank c = true) (gap : Gap more) :
      Gap (c :: more)
  | lineComment {line more : List Char} (unbroken : '\n' ∉ line) (gap : Gap more) :
      Gap ('/' :: '/' :: (line ++ '\n' :: more))
  | blockComment {body more : List Char} (closed : CommentBody body) (gap : Gap more) :
      Gap ('/' :: '*' :: (body ++ more))

/-- Blanks and comments at the end of a text, where a line comment needs no line break. -/
inductive FinalGap : List Char → Prop
  | gap {cs : List Char} (gap : Gap cs) : FinalGap cs
  | lineComment {cs line : List Char} (gap : Gap cs) (unbroken : '\n' ∉ line) :
      FinalGap (cs ++ '/' :: '/' :: line)

theorem CommentBody.ne_nil {body : List Char} (closed : CommentBody body) : body ≠ [] := by
  cases closed <;> exact List.cons_ne_nil _ _

/-- A character that begins no mark belongs to the comment. -/
theorem commentClosing_cons {c : Char} {cs : List Char} (opensNone : c = '/' → cs.head? ≠ some '*')
    (closesNone : c = '*' → cs.head? ≠ some '/') (depth taken : ℕ) :
    commentClosing depth taken (c :: cs) = commentClosing depth (taken + 1) cs := by
  rw [commentClosing.eq_def]
  split
  next same =>
      obtain ⟨rfl, rfl⟩ := List.cons.inj same
      exact absurd rfl (opensNone rfl)
  next same =>
      obtain ⟨rfl, rfl⟩ := List.cons.inj same
      exact absurd rfl (closesNone rfl)
  next same =>
      obtain ⟨rfl, rfl⟩ := List.cons.inj same
      rfl
  next same => cases same

/-- The body of a comment closes the innermost of the comments that are open. -/
theorem commentClosing_append {body : List Char} (closed : CommentBody body) (depth taken : ℕ)
    (rest : List Char) :
    commentClosing depth taken (body ++ rest) =
      match depth with
      | 0 => some (taken + body.length)
      | depth + 1 => commentClosing depth (taken + body.length) rest := by
  induction closed generalizing depth taken rest with
  | close => cases depth <;> rfl
  | nest nested closed ihInner ihMore =>
      simp only [List.cons_append, List.append_assoc, commentClosing, ihInner, ihMore,
        List.length_cons, List.length_append]
      have count (m n : ℕ) : taken + 2 + m + n = taken + (m + n + 1 + 1) := by omega
      cases depth <;> simp only [count]
  | @char c more opensNone closesNone closed ih =>
      have next : (more ++ rest).head? = more.head? :=
        List.head?_append_of_ne_nil _ closed.ne_nil
      rw [← next] at opensNone closesNone
      rw [List.cons_append, commentClosing_cons opensNone closesNone, ih, List.length_cons]
      have count (n : ℕ) : taken + 1 + n = taken + (n + 1) := by omega
      cases depth <;> simp only [count]

theorem commentLength?_block {body : List Char} (closed : CommentBody body) (rest : List Char) :
    commentLength? ('*' :: (body ++ rest)) = some (body.length + 1) := by
  rw [commentLength?, commentClosing_append closed, Option.map_some, Nat.zero_add, Nat.add_comm]

theorem commentLength?_line {line rest : List Char} (unbroken : '\n' ∉ line)
    (ended : ∀ c ∈ rest.head?, c = '\n') :
    commentLength? ('/' :: (line ++ rest)) = some (line.length + 1) := by
  have inside : ∀ c ∈ line, decide (c ≠ '\n') = true :=
    fun c mem => decide_eq_true fun same => unbroken (same ▸ mem)
  have outside : ∀ c ∈ rest.head?, decide (c ≠ '\n') = false :=
    fun c mem => decide_eq_false fun other => other (ended c mem)
  rw [commentLength?, takeWhile_append_of_head? inside outside, Nat.add_comm]

theorem cutInto_comment {cs rest : List Char}
    (comment : commentLength? (cs ++ rest) = some cs.length) : CutInto ('/' :: cs) [] rest := by
  have read : lexeme '/' (cs ++ rest) = some (none, cs.length) := by
    rw [lexeme, comment, Option.map_some]
  rw [CutInto, List.cons_append, tokensFrom_cons read, List.drop_left]
  rfl

theorem cutInto_line {line rest : List Char} (unbroken : '\n' ∉ line)
    (ended : ∀ c ∈ rest.head?, c = '\n') : CutInto ('/' :: '/' :: line) [] rest :=
  cutInto_comment (commentLength?_line unbroken ended)

theorem cutInto_block {body : List Char} (closed : CommentBody body) (rest : List Char) :
    CutInto ('/' :: '*' :: body) [] rest :=
  cutInto_comment (commentLength?_block closed rest)

theorem Gap.cutInto {cs : List Char} (gap : Gap cs) (rest : List Char) : CutInto cs [] rest := by
  induction gap with
  | nil => exact CutInto.nil rest
  | blank blank _ ih => exact (cutInto_blank blank _).skip ih
  | @lineComment line more unbroken _ ih =>
      have comment : CutInto ('/' :: '/' :: line) [] ('\n' :: (more ++ rest)) :=
        cutInto_line unbroken (by rintro _ ⟨⟩; rfl)
      have lineBreak : CutInto ['\n'] [] (more ++ rest) := cutInto_blank rfl _
      exact comment.skip (lineBreak.skip ih)
  | blockComment closed _ ih => exact (cutInto_block closed _).skip ih

theorem FinalGap.cutInto {cs : List Char} (final : FinalGap cs) : CutInto cs [] [] := by
  cases final with
  | gap gap => exact gap.cutInto []
  | lineComment gap unbroken => exact (gap.cutInto _).skip (cutInto_line unbroken (by rintro _ ⟨⟩))

theorem isDelimiter_of_isBlank {c : Char} (blank : isBlank c = true) : isDelimiter c = true := by
  have all : blanks.all isDelimiter = true := by decide +kernel
  exact List.all_eq_true.mp all c (List.contains_iff_mem.mp blank)

/-- A gap begins with a delimiter, and an empty one lets what follows be one. -/
theorem Gap.delimited_append {cs rest : List Char} (gap : Gap cs) (delimited : Delimited rest) :
    Delimited (cs ++ rest) := by
  cases gap with
  | nil => exact delimited
  | blank blank _ => exact delimited_cons (isDelimiter_of_isBlank blank) _
  | lineComment _ _ | blockComment _ _ => exact delimited_cons (by decide +kernel) _

theorem FinalGap.delimited {cs : List Char} (final : FinalGap cs) : Delimited cs := by
  cases final with
  | gap gap =>
      have none : Delimited [] := by rintro _ ⟨⟩
      simpa only [List.append_nil] using gap.delimited_append none
  | lineComment gap _ => exact gap.delimited_append (delimited_cons (by decide +kernel) _)

/-! ### Adequacy

A layout has gaps between its elements and no other text. The lexer passes over nothing else:
`finalGap_iff`, to which this section leads, is the adequacy statement of the gaps in `Layout`.
-/

/-- Where a comment ends, bodies of comments have been passed over: its own, and those of the
comments that are open around it. -/
theorem exists_commentBodies {depth taken n : ℕ} {cs : List Char}
    (closing : commentClosing depth taken cs = some n) :
    ∃ (bodies : List (List Char)) (rest : List Char), bodies.length = depth + 1 ∧
      (∀ body ∈ bodies, CommentBody body) ∧ cs = bodies.flatten ++ rest ∧
        n = taken + bodies.flatten.length := by
  fun_induction commentClosing depth taken cs with
  | case1 depth taken cs ih =>
      obtain ⟨bodies, rest, length, closed, rfl, rfl⟩ := ih closing
      match bodies, length with
      | inner :: body :: bodies, length =>
          obtain ⟨inner_closed, body_closed, closed⟩ : CommentBody inner ∧ CommentBody body ∧
              ∀ body ∈ bodies, CommentBody body := by
            simpa only [List.forall_mem_cons] using closed
          refine ⟨('/' :: '*' :: (inner ++ body)) :: bodies, rest, by simpa using length,
            List.forall_mem_cons.mpr ⟨.nest inner_closed body_closed, closed⟩, by simp, ?_⟩
          simp only [List.flatten_cons, List.length_append, List.length_cons]
          omega
  | case2 taken cs =>
      obtain rfl := Option.some.inj closing
      exact ⟨[['*', '/']], cs, rfl, List.forall_mem_singleton.mpr .close, rfl, rfl⟩
  | case3 taken cs depth ih =>
      obtain ⟨bodies, rest, length, closed, rfl, rfl⟩ := ih closing
      refine ⟨['*', '/'] :: bodies, rest, by simp [length],
        List.forall_mem_cons.mpr ⟨.close, closed⟩, by simp, ?_⟩
      simp only [List.flatten_cons, List.length_append, List.length_cons, List.length_nil]
      omega
  | case4 depth taken c cs opensNone closesNone ih =>
      obtain ⟨bodies, rest, length, closed, rfl, rfl⟩ := ih closing
      match bodies, length with
      | body :: bodies, length =>
          obtain ⟨body_closed, closed⟩ := List.forall_mem_cons.mp closed
          have next : (body ++ (bodies.flatten ++ rest)).head? = body.head? :=
            List.head?_append_of_ne_nil _ body_closed.ne_nil
          rw [List.flatten_cons, List.append_assoc] at opensNone closesNone
          have extended : CommentBody (c :: body) := by
            refine .char (fun same mark => ?_) (fun same mark => ?_) body_closed
            · obtain ⟨more, mark⟩ := List.head?_eq_some_iff.mp (next.trans mark)
              exact opensNone more same mark
            · obtain ⟨more, mark⟩ := List.head?_eq_some_iff.mp (next.trans mark)
              exact closesNone more same mark
          refine ⟨(c :: body) :: bodies, rest, length, List.forall_mem_cons.mpr ⟨extended, closed⟩,
            rfl, ?_⟩
          simp only [List.flatten_cons, List.length_append, List.length_cons]
          omega
  | case5 => cases closing

theorem exists_commentBody {n : ℕ} {cs : List Char} (closing : commentClosing 0 0 cs = some n) :
    ∃ body rest, CommentBody body ∧ cs = body ++ rest ∧ n = body.length := by
  obtain ⟨bodies, rest, length, closed, rfl, rfl⟩ := exists_commentBodies closing
  obtain ⟨body, rfl⟩ := List.length_eq_one_iff.mp length
  exact ⟨body, rest, closed body List.mem_cons_self, by simp, by simp⟩

theorem Gap.append {cs cs' : List Char} (gap : Gap cs) (gap' : Gap cs') : Gap (cs ++ cs') := by
  induction gap with
  | nil => exact gap'
  | blank blank _ ih => exact .blank blank ih
  | lineComment unbroken _ ih => simpa using Gap.lineComment unbroken ih
  | blockComment closed _ ih => simpa using Gap.blockComment closed ih

theorem Gap.append_final {cs cs' : List Char} (gap : Gap cs) (final : FinalGap cs') :
    FinalGap (cs ++ cs') := by
  cases final with
  | gap gap' => exact .gap (gap.append gap')
  | lineComment gap' unbroken =>
      rw [← List.append_assoc]
      exact .lineComment (gap.append gap') unbroken

/-- Only blanks and comments are lexemes without a token. -/
theorem lexeme_none_cases {c : Char} {cs : List Char} {n : ℕ}
    (read : lexeme c cs = some (none, n)) :
    (c = '/' ∧ commentLength? cs = some n) ∨
      (isBlank c = true ∧ n = (cs.takeWhile isBlank).length) := by
  unfold lexeme at read
  split at read
  case h_1 =>
    obtain ⟨m, length, same⟩ := Option.map_eq_some_iff.mp read
    obtain ⟨-, rfl⟩ := Prod.mk.inj same
    exact .inl ⟨rfl, length⟩
  case h_13 =>
    simp only at read
    split_ifs at read with blank mark start digit
    · obtain ⟨-, rfl⟩ := Prod.mk.inj (Option.some.inj read)
      exact .inr ⟨blank, rfl⟩
    all_goals simp at read
  all_goals simp at read

theorem tokensFrom_cons_eq_nil {c : Char} {cs : List Char}
    (none : tokensFrom 0 (c :: cs) = some []) :
    ∃ n, lexeme c cs = some (.none, n) ∧ tokensFrom 0 (cs.drop n) = some [] := by
  cases read : lexeme c cs with
  | none => simp [tokensFrom, read] at none
  | some lexeme =>
      obtain ⟨token, n⟩ := lexeme
      rw [tokensFrom_cons read] at none
      obtain ⟨ts, rest, same⟩ := Option.map_eq_some_iff.mp none
      obtain ⟨noToken, rfl⟩ := List.append_eq_nil_iff.mp same
      obtain rfl := Option.toList_eq_nil_iff.mp noToken
      exact ⟨n, rfl, rest⟩

/-- A comment is a line up to its end or a body. -/
theorem commentLength?_cases {n : ℕ} {cs : List Char} (comment : commentLength? cs = some n) :
    (∃ line rest, '\n' ∉ line ∧ (∀ c ∈ rest.head?, c = '\n') ∧ cs = '/' :: (line ++ rest) ∧
        n = line.length + 1) ∨
      ∃ body rest, CommentBody body ∧ cs = '*' :: (body ++ rest) ∧ n = body.length + 1 := by
  rw [commentLength?.eq_def] at comment
  split at comment
  next cs =>
    refine .inl ⟨cs.takeWhile (· ≠ '\n'), cs.dropWhile (· ≠ '\n'), fun mem => ?_, fun c mem => ?_,
      by rw [List.takeWhile_append_dropWhile], ?_⟩
    · simpa using List.mem_takeWhile_imp mem
    · have stop := List.head?_dropWhile_not (· ≠ '\n') cs
      rw [Option.mem_def.mp mem] at stop
      simpa using stop
    · rw [← Option.some.inj comment, Nat.add_comm]
  next cs =>
    obtain ⟨m, closing, rfl⟩ := Option.map_eq_some_iff.mp comment
    obtain ⟨body, rest, closed, rfl, rfl⟩ := exists_commentBody closing
    exact .inr ⟨body, rest, closed, rfl, Nat.add_comm _ _⟩
  next => cases comment

/-- A text without a token that is not empty is a last line comment, or begins with a gap. -/
theorem finalGap_or_exists_gap {c : Char} {cs : List Char}
    (none : tokensFrom 0 (c :: cs) = some []) :
    FinalGap (c :: cs) ∨ ∃ gap rest, Gap gap ∧ c :: cs = gap ++ rest ∧ rest.length ≤ cs.length ∧
      tokensFrom 0 rest = some [] := by
  obtain ⟨n, read, none⟩ := tokensFrom_cons_eq_nil none
  obtain ⟨rfl, comment⟩ | ⟨blank, rfl⟩ := lexeme_none_cases read
  · obtain ⟨line, rest, unbroken, ended, rfl, rfl⟩ | ⟨body, rest, closed, rfl, rfl⟩ :=
      commentLength?_cases comment
    · cases rest with
      | nil => exact .inl (by simpa using FinalGap.lineComment .nil unbroken)
      | cons lineBreak rest =>
          obtain rfl : lineBreak = '\n' := ended lineBreak rfl
          have skipped : tokensFrom 0 ('\n' :: rest) = tokensFrom 0 rest :=
            (cutInto_blank rfl rest).tokensFrom_append
          rw [List.drop_succ_cons, List.drop_left, skipped] at none
          exact .inr ⟨'/' :: '/' :: (line ++ ['\n']), rest, .lineComment unbroken .nil, by simp,
            by simp; omega, none⟩
    · rw [List.drop_succ_cons, List.drop_left] at none
      refine .inr ⟨'/' :: '*' :: body, rest, ?_, rfl, by simp; omega, none⟩
      simpa using Gap.blockComment closed .nil
  · rw [tokensFrom_drop_blanks] at none
    exact .inr ⟨[c], cs, .blank blank .nil, rfl, le_rfl, none⟩

/-- The texts without a token are the gaps at the end of a text. -/
theorem finalGap_iff {cs : List Char} : FinalGap cs ↔ tokensFrom 0 cs = some [] := by
  constructor
  · intro final
    have cut := final.cutInto.tokensFrom_append
    rwa [List.append_nil] at cut
  · intro none
    induction length : cs.length using Nat.strong_induction_on generalizing cs with
    | _ length ih =>
      subst length
      cases cs with
      | nil => exact .gap .nil
      | cons c cs =>
          obtain final | ⟨gap, rest, isGap, same, shorter, none⟩ := finalGap_or_exists_gap none
          · exact final
          · rw [same]
            exact isGap.append_final (ih rest.length (Nat.lt_succ_of_le shorter) none rfl)

end UniversalMachine.Document
