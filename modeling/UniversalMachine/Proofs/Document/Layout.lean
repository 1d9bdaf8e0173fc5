import Mathlib
import UniversalMachine.Proofs.Document.Gaps
import UniversalMachine.Proofs.Document.Quotations
import UniversalMachine.Proofs.Document.Readers

/-!
The layouts of a document. A document is a sequence of elements, each of which may be spelled
in several ways, with gaps in front of the elements and behind the last one. However it is laid
out, it is cut into tokens that stand for its elements, and what is read from them depends on
the elements alone.
-/

namespace UniversalMachine.Document

/-- What a token stands for, however it is spelled. -/
inductive Element where
  /-- An identifier that has a meaning of its own as a value. -/
  | keyword (text : String)
  /-- An identifier that names a field or a document. -/
  | name (text : String)
  | number (n : ℕ)
  /-- A text in double quotes, whatever it says. -/
  | quotation
  /-- An opening parenthesis. -/
  | parenthesis
  /-- Any other punctuation mark. -/
  | mark (c : Char)

/-- The ways to spell an element. A name may be marked as a raw identifier, and a number may
begin with zeros. -/
inductive Spells : Element → List Char → Prop
  | keyword {text : String} (identifier : isIdentifier text = true) :
      Spells (.keyword text) text.toList
  | name {text : String} (identifier : isIdentifier text = true) : Spells (.name text) text.toList
  | rawName {text : String} (nonempty : text.toList ≠ [])
      (inside : ∀ c ∈ text.toList, isRawContinue c = true) :
      Spells (.name text) ('r' :: '#' :: text.toList)
  | number (width n : ℕ) : Spells (.number n) (Numeral.padded 10 width n)
  | quotation {cs : List Char} (closed : Quotation cs) : Spells .quotation ('"' :: cs)
  | parenthesis : Spells .parenthesis ['(']
  | mark {c : Char} (known : c ∈ punctuation) : Spells (.mark c) [c]

/-- The texts that elements can be laid out as. By `finalGap_iff` the gaps are all that the lexer
passes over. -/
inductive Layout : List Element → List Char → Prop
  | final {cs : List Char} (gap : FinalGap cs) : Layout [] cs
  | element {e : Element} {es : List Element} {gap spelling cs : List Char} (before : Gap gap)
      (spells : Spells e spelling) (layout : Layout es cs) :
      Layout (e :: es) (gap ++ (spelling ++ cs))

namespace Element

def Stands : Element → Token → Prop
  | keyword text, t => t = .identifier { text }
  | name text, t => ∃ raw, t = .identifier { text, raw }
  | number n, t => t = numberToken n
  | quotation, t => t = .literal
  | parenthesis, t => ∃ after, t = .parenthesis after
  | mark c, t => t = .punctuation c

/-- The element is a mark at which identifiers and numbers end. -/
def Delimits : Element → Prop
  | parenthesis => True
  | mark c => isDelimiter c = true
  | _ => False

/-- Of two neighbours one is such a mark, so that no gap has to keep them apart. -/
def Apart (e e' : Element) : Prop :=
  e.Delimits ∨ e'.Delimits

end Element

theorem Spells.exists_token {e : Element} {cs rest : List Char} (spells : Spells e cs)
    (ended : e.Delimits ∨ Delimited rest) : ∃ t, e.Stands t ∧ CutInto cs [t] rest := by
  cases spells with
  | parenthesis => exact ⟨_, ⟨rest, rfl⟩, cutInto_parenthesis rest⟩
  | mark known => exact ⟨_, rfl, cutInto_punctuation known rest⟩
  | quotation closed => exact ⟨_, rfl, cutInto_quotation closed rest⟩
  | number width n => exact ⟨_, rfl, cutInto_padded width n (ended.resolve_left id)⟩
  | keyword identifier => exact ⟨_, rfl, cutInto_identifier identifier (ended.resolve_left id)⟩
  | name identifier =>
      exact ⟨_, ⟨false, rfl⟩, cutInto_identifier identifier (ended.resolve_left id)⟩
  | rawName nonempty inside =>
      exact ⟨_, ⟨true, rfl⟩, cutInto_rawIdentifier nonempty inside (ended.resolve_left id)⟩

theorem Spells.delimited_append {e : Element} {cs : List Char} (spells : Spells e cs)
    (delimits : e.Delimits) (rest : List Char) : Delimited (cs ++ rest) := by
  cases spells with
  | parenthesis => exact delimited_cons (by decide +kernel) rest
  | mark known => exact delimited_cons delimits rest
  | quotation | number | keyword | name | rawName => cases delimits

/-- Identifiers and numbers end in front of a layout that begins with a mark, or with nothing. -/
theorem Layout.delimited {es : List Element} {cs : List Char} (layout : Layout es cs)
    (delimits : ∀ e ∈ es.head?, e.Delimits) : Delimited cs := by
  cases layout with
  | final gap => exact gap.delimited
  | element before spells _ =>
      exact before.delimited_append (spells.delimited_append (delimits _ rfl) _)

/-- The tokens of a layout stand for its elements. -/
theorem Layout.exists_tokens {es : List Element} {cs : List Char} (layout : Layout es cs)
    (apart : es.IsChain Element.Apart) :
    ∃ ts, CutInto cs ts [] ∧ List.Forall₂ Element.Stands es ts := by
  induction layout with
  | final gap => exact ⟨[], gap.cutInto, .nil⟩
  | @element e es gap spelling cs before spells layout ih =>
      obtain ⟨neighbour, apart⟩ := List.isChain_cons.mp apart
      obtain ⟨ts, cut, stand⟩ := ih apart
      have ended : e.Delimits ∨ Delimited (cs ++ []) := by
        rw [List.append_nil]
        by_cases delimits : e.Delimits
        · exact .inl delimits
        · exact .inr (layout.delimited fun e' head => (neighbour e' head).resolve_left delimits)
      obtain ⟨t, stands, first⟩ := spells.exists_token ended
      exact ⟨t :: ts, (before.cutInto _).skip (first.cons cut), .cons stands stand⟩

def fieldElements (text : String) (value : List Element) : List Element :=
  .name text :: .mark ':' :: value

/-- Things with commas between them, and behind the last one, too, if `trailing` is set. -/
def commaSeparated (trailing : Bool) : List (List Element) → List Element
  | [] => []
  | [es] => es ++ if trailing then [.mark ','] else []
  | es :: es' :: more => es ++ .mark ',' :: commaSeparated trailing (es' :: more)

/-- The elements of a document by its name, which may be missing, and those of its fields. -/
def documentElements (title? : Option String) (trailing : Bool) (fields : List (List Element)) :
    List Element :=
  (title?.map .name).toList ++ .parenthesis :: (commaSeparated trailing fields ++ [.mark ')'])

theorem length_le_length_commaSeparated (trailing : Bool) (fields : List (List Element)) :
    fields.length ≤ (commaSeparated trailing fields).length + 1 := by
  fun_induction commaSeparated trailing fields with
  | case1 => exact Nat.zero_le _
  | case2 es => exact Nat.le_add_left 1 _
  | case3 es es' more ih =>
      simp only [List.length_cons, List.length_append] at ih ⊢
      omega

theorem delimits_comma : (Element.mark ',').Delimits :=
  (by decide +kernel : isDelimiter ',' = true)

theorem delimits_colon : (Element.mark ':').Delimits :=
  (by decide +kernel : isDelimiter ':' = true)

theorem delimits_closing : (Element.mark ')').Delimits :=
  (by decide +kernel : isDelimiter ')' = true)

theorem isChain_fieldElements {text : String} {es : List Element}
    (apart : es.IsChain Element.Apart) : (fieldElements text es).IsChain Element.Apart := by
  have value : (.mark ':' :: es).IsChain Element.Apart :=
    List.isChain_cons.mpr ⟨fun _ _ => .inl delimits_colon, apart⟩
  exact List.isChain_cons.mpr ⟨by rintro _ ⟨⟩; exact .inr delimits_colon, value⟩

theorem isChain_between {e e' : Element} {es rest : List Element} (delimits : e.Delimits)
    (apart : es.IsChain Element.Apart) (delimits' : e'.Delimits)
    (more : (e' :: rest).IsChain Element.Apart) :
    (e :: (es ++ e' :: rest)).IsChain Element.Apart := by
  have upTo : (es ++ [e']).IsChain Element.Apart := by
    refine List.isChain_append.mpr ⟨apart, List.isChain_singleton e', ?_⟩
    rintro x - _ ⟨⟩
    exact .inr delimits'
  exact List.isChain_cons.mpr ⟨fun _ _ => .inl delimits, List.isChain_split.mpr ⟨upTo, more⟩⟩

theorem isChain_commaSeparated {trailing : Bool} {fields : List (List Element)}
    (apart : ∀ es ∈ fields, es.IsChain Element.Apart) {e : Element} (delimits : e.Delimits) :
    (e :: (commaSeparated trailing fields ++ [.mark ')'])).IsChain Element.Apart := by
  have closed : [Element.mark ')'].IsChain Element.Apart := List.isChain_singleton _
  fun_induction commaSeparated trailing fields generalizing e with
  | case1 => exact isChain_between delimits .nil delimits_closing closed
  | case2 es =>
      have only := apart es List.mem_cons_self
      cases trailing with
      | false =>
          rw [if_neg Bool.false_ne_true, List.append_nil]
          exact isChain_between delimits only delimits_closing closed
      | true =>
          rw [if_pos rfl, List.append_assoc]
          exact isChain_between delimits only delimits_comma
            (isChain_between delimits_comma .nil delimits_closing closed)
  | case3 es es' more ih =>
      obtain ⟨first, apart⟩ := List.forall_mem_cons.mp apart
      rw [List.append_assoc]
      exact isChain_between delimits first delimits_comma (ih apart delimits_comma)

/-- Any two neighbours in a document can do without a gap between them, if those in its fields
can. -/
theorem isChain_documentElements {title? : Option String} {trailing : Bool}
    {fields : List (List Element)} (apart : ∀ es ∈ fields, es.IsChain Element.Apart) :
    (documentElements title? trailing fields).IsChain Element.Apart := by
  have opening : Element.parenthesis.Delimits := trivial
  have body : (Element.parenthesis :: (commaSeparated trailing fields ++ [.mark ')'])).IsChain
      Element.Apart :=
    isChain_commaSeparated apart opening
  cases title? with
  | none => exact body
  | some text => exact List.isChain_cons.mpr ⟨by rintro _ ⟨⟩; exact .inr opening, body⟩

/-- A reader takes exactly the tokens that stand for the elements `es`, whatever follows them, and
returns `x`. -/
def ReadsAs {α : Type} (read : Reader α) (es : List Element) (x : α) : Prop :=
  ∀ ts, List.Forall₂ Element.Stands es ts → Reads read ts x

theorem exists_of_forall₂_append {α β : Type} {r : α → β → Prop} {as as' : List α} {bs : List β}
    (related : List.Forall₂ r (as ++ as') bs) :
    ∃ cs cs', bs = cs ++ cs' ∧ List.Forall₂ r as cs ∧ List.Forall₂ r as' cs' :=
  ⟨bs.take as.length, bs.drop as.length, (List.take_append_drop _ bs).symm,
    (List.forall₂_take_append bs as as' related.flip).flip,
    (List.forall₂_drop_append bs as as' related.flip).flip⟩

section
variable {α β : Type} {item : Reader α} {es es' : List Element} {x : α} {xs : List α}

theorem ReadsAs.field {value : Reader β} {v : β} (read : ReadsAs value es v) (text : String) :
    ReadsAs (pair name value) (fieldElements text es) (text, v) := by
  intro ts stand
  obtain _ | ⟨⟨raw, rfl⟩, _ | ⟨rfl, stand⟩⟩ := stand
  have readName : Reads name [.identifier { text, raw }] text := fun _ => rfl
  exact readName.pair (read _ stand)

theorem expect_eq_none {text : String} {ts : List Token}
    (stand : List.Forall₂ Element.Stands (fieldElements text es) ts) (c : Char)
    (more : List Token) :
    expect c (ts ++ more) = none := by
  obtain _ | ⟨⟨raw, rfl⟩, _⟩ := stand
  rfl

theorem readsAs_separated_nil (item : Reader α) (bound : ℕ) :
    ReadsAs (separated ')' item (bound + 1)) [.mark ')'] [] := by
  intro ts stand
  obtain _ | ⟨rfl, ⟨⟩⟩ := stand
  exact reads_separated_nil ')' item bound

variable {text : String} (read : ReadsAs item (fieldElements text es) x)
include read

theorem ReadsAs.separated_last (bound : ℕ) :
    ReadsAs (separated ')' item (bound + 1)) (fieldElements text es ++ [.mark ')']) [x] := by
  intro all stand
  obtain ⟨ts, closing, rfl, first, _ | ⟨rfl, ⟨⟩⟩⟩ := exists_of_forall₂_append stand
  exact (read ts first).separated_last (expect_eq_none first ')') (by decide) bound

theorem ReadsAs.separated_cons {bound : ℕ} (more : ReadsAs (separated ')' item bound) es' xs) :
    ReadsAs (separated ')' item (bound + 1)) (fieldElements text es ++ .mark ',' :: es')
      (x :: xs) := by
  intro all stand
  obtain ⟨ts, _, rfl, first, _ | ⟨rfl, rest⟩⟩ := exists_of_forall₂_append stand
  exact (read ts first).separated_cons (expect_eq_none first ')') (more _ rest)

end

section
variable {φ : Type} {label : φ → String} {elements : φ → List Element} {meaning : φ → Value}
  {fields : List φ}

/-- Fields are read one after the other, with and without a comma behind the last one. -/
theorem readsAs_fields (trailing : Bool) {value : Reader Value}
    (reads : ∀ f ∈ fields, ReadsAs value (elements f) (meaning f)) {bound : ℕ}
    (enough : fields.length < bound) :
    ReadsAs (separated ')' (pair name value) bound)
      (commaSeparated trailing (fields.map fun f => fieldElements (label f) (elements f)) ++
        [.mark ')'])
      (fields.map fun f => (label f, meaning f)) := by
  induction fields generalizing bound with
  | nil =>
      obtain ⟨bound, rfl⟩ : ∃ b, bound = b + 1 := ⟨bound - 1, by omega⟩
      exact readsAs_separated_nil (pair name value) bound
  | cons f fields ih =>
      obtain ⟨bound, rfl⟩ : ∃ b, bound = b + 1 := ⟨bound - 1, by omega⟩
      obtain ⟨first, reads⟩ := List.forall_mem_cons.mp reads
      have first := first.field (label f)
      have more := ih reads (Nat.lt_of_succ_lt_succ enough)
      match fields, trailing with
      | [], false => simpa [commaSeparated] using first.separated_last bound
      | [], true => simpa [commaSeparated] using first.separated_cons more
      | _ :: _, _ => simpa [commaSeparated] using first.separated_cons more

/-- What is read from a document depends on its elements alone. -/
theorem read?_layout {title? : Option String} {trailing : Bool} {text : String}
    (reads : ∀ f ∈ fields, ∀ bound,
      ReadsAs (value [] bound maxDepth) (elements f) (meaning f))
    (apart : ∀ f ∈ fields, (elements f).IsChain Element.Apart)
    (layout : Layout (documentElements title? trailing
      (fields.map fun f => fieldElements (label f) (elements f))) text.toList) :
    read? text = some
      { name? := title?, fields := fields.map fun f => (label f, meaning f) } := by
  have fieldsApart : ∀ es ∈ fields.map fun f => fieldElements (label f) (elements f),
      es.IsChain Element.Apart :=
    List.forall_mem_map.mpr fun f mem => isChain_fieldElements (apart f mem)
  obtain ⟨ts, cut, stand⟩ := layout.exists_tokens (isChain_documentElements fieldsApart)
  have readFields {ts : List Token} (stand : List.Forall₂ Element.Stands (commaSeparated trailing
      (fields.map fun f => fieldElements (label f) (elements f)) ++ [.mark ')']) ts) (bound : ℕ)
      (longer : ts.length < bound) :
      Reads (separated ')' (pair name (value [] bound maxDepth)) bound) ts
        (fields.map fun f => (label f, meaning f)) := by
    have fewer := length_le_length_commaSeparated trailing
      (fields.map fun f => fieldElements (label f) (elements f))
    have same := stand.length_eq
    simp only [List.length_map, List.length_append, List.length_singleton] at fewer same
    exact readsAs_fields trailing (fun f mem => reads f mem bound) (by omega) ts stand
  rw [read?, cut.tokens_eq, Option.bind_some]
  cases title? with
  | none =>
      obtain _ | ⟨⟨after, rfl⟩, stand⟩ := stand
      exact ofTokens?_eq rfl rfl (Nat.lt_succ_self _) (readFields stand)
  | some title =>
      obtain _ | ⟨⟨raw, rfl⟩, _ | ⟨⟨after, rfl⟩, stand⟩⟩ := stand
      exact ofTokens?_eq rfl rfl (by simp) (readFields stand)

end

end UniversalMachine.Document
