import Mathlib
import UniversalMachine.Document

/-!
What the readers make of tokens. A reader that takes exactly some tokens does so whatever
follows them, so the readers of parts compose to those of pairs, of present values and of
sequences.
-/

namespace UniversalMachine.Document

/-- A reader takes exactly the tokens `ts`, whatever follows them, and returns `x`. -/
def Reads {α : Type} (read : Reader α) (ts : List Token) (x : α) : Prop :=
  ∀ more, read (ts ++ more) = some (x, more)

section
variable {α β : Type} {first : Reader α} {second : Reader β} {ts ts' : List Token} {a : α} {b : β}

theorem reads_name (s : String) : Reads name [.identifier { text := s }] s :=
  fun _ => rfl

theorem Reads.pair (readFirst : Reads first ts a) (readSecond : Reads second ts' b) :
    Reads (Document.pair first second) (ts ++ .punctuation ':' :: ts') (a, b) := by
  intro more
  rw [List.append_assoc, Document.pair, readFirst]
  simp only [List.cons_append, expect, Token.mark?, if_true, bind, Option.bind_some]
  rw [readSecond]
  rfl

end

/-- Things that are separated by commas, with a comma behind the last one, too. -/
def withCommas (items : List (List Token)) : List Token :=
  items.flatMap (· ++ [.punctuation ','])

theorem length_le_length_withCommas (items : List (List Token)) :
    items.length ≤ (withCommas items).length := by
  induction items with
  | nil => exact Nat.zero_le 0
  | cons ts items ih =>
      simp only [withCommas, List.flatMap_cons, List.length_append, List.length_cons] at ih ⊢
      omega

section
variable {α : Type} {close : Char} {item : Reader α} {ts ts' : List Token} {x : α} {xs : List α}

theorem reads_separated_nil (close : Char) (item : Reader α) (bound : ℕ) :
    Reads (separated close item (bound + 1)) [.punctuation close] [] := by
  intro more
  simp only [List.singleton_append, separated, expect, Token.mark?, if_true]

variable (read : Reads item ts x) (opens : ∀ more, expect close (ts ++ more) = none)
include read opens

theorem Reads.separated_last (noComma : close ≠ ',') (bound : ℕ) :
    Reads (separated close item (bound + 1)) (ts ++ [.punctuation close]) [x] := by
  intro more
  rw [List.append_assoc, separated, opens, read]
  simp only [List.singleton_append, expect, Token.mark?, Option.some.injEq, noComma, if_false,
    if_true, bind, Option.bind_some]
  rfl

theorem Reads.separated_cons {bound : ℕ} (readRest : Reads (separated close item bound) ts' xs) :
    Reads (separated close item (bound + 1)) (ts ++ .punctuation ',' :: ts') (x :: xs) := by
  intro more
  rw [List.append_assoc, separated, opens, read]
  simp only [List.cons_append, expect, Token.mark?, if_true, bind, Option.bind_some]
  rw [readRest]
  rfl

end

/-- A sequence is read if each of its things is, and none of them begins with the closing
mark. -/
theorem reads_separated {α : Type} {close : Char} {item : Reader α}
    {items : List (List Token × α)} (reads : ∀ p ∈ items, Reads item p.1 p.2)
    (opens : ∀ p ∈ items, ∀ more, expect close (p.1 ++ more) = none) {bound : ℕ}
    (enough : items.length < bound) :
    Reads (separated close item bound) (withCommas (items.map (·.1)) ++ [.punctuation close])
      (items.map (·.2)) := by
  induction items generalizing bound with
  | nil =>
      cases bound with
      | zero => cases enough
      | succ bound => exact reads_separated_nil close item bound
  | cons p items ih =>
      cases bound with
      | zero => cases enough
      | succ bound =>
          obtain ⟨readFirst, reads⟩ := List.forall_mem_cons.mp reads
          obtain ⟨open_first, opens⟩ := List.forall_mem_cons.mp opens
          have readRest := ih reads opens (Nat.lt_of_succ_lt_succ enough)
          simpa only [withCommas, List.map_cons, List.flatMap_cons, List.append_assoc,
            List.cons_append, List.nil_append] using readFirst.separated_cons open_first readRest

section
variable (extensions : List Extension) (bound depth : ℕ)

theorem reads_value_boolean (b : Bool) :
    Reads (value extensions bound (depth + 1))
      [.identifier { text := if b then "true" else "false" }] (.boolean b) := by
  cases b <;> exact fun _ => rfl

theorem reads_value_absent :
    Reads (value extensions bound (depth + 1)) [.identifier { text := "None" }] .absent :=
  fun _ => rfl

theorem reads_value_natural (n : UInt64) :
    Reads (value extensions bound (depth + 1)) [.natural n] (.natural n) :=
  fun _ => rfl

variable {extensions bound depth}

theorem reads_value_present (marked : .bareVariants ∉ extensions) {ts : List Token} {v : Value}
    (inner : Reads (value extensions bound depth) ts v) (after : List Char) :
    Reads (value extensions bound (depth + 1))
      (.identifier { text := "Some" } :: .parenthesis after :: (ts ++ [.punctuation ')']))
      (.present v) := by
  intro more
  have wrapped : value extensions bound (depth + 1)
      (.identifier { text := "Some" } :: .parenthesis after :: (ts ++ [.punctuation ')']) ++ more) =
      presentValue extensions (value extensions bound depth)
        (.parenthesis after :: (ts ++ ([.punctuation ')'] ++ more))) := by
    rw [← List.append_assoc ts]
    rfl
  rw [wrapped, presentValue, if_neg marked, enclosed, inner]
  rfl

end

/-- A field by its name, the tokens of its value, and what these are read as. -/
structure WrittenField where
  name : String
  tokens : List Token
  value : Value
  reads : ∀ bound, Reads (Document.value [] bound maxDepth) tokens value

namespace WrittenField

/-- The tokens of a field, without the comma behind it. -/
def allTokens (f : WrittenField) : List Token :=
  .identifier { text := f.name } :: .punctuation ':' :: f.tokens

/-- The field as it stands in a document. -/
def entry (f : WrittenField) : String × Value :=
  (f.name, f.value)

theorem reads_entry (f : WrittenField) (bound : ℕ) :
    Reads (pair Document.name (Document.value [] bound maxDepth)) f.allTokens f.entry :=
  (reads_name f.name).pair (f.reads bound)

end WrittenField

/-- The tokens of fields, up to the parenthesis that closes them. -/
def fieldsTokens (fs : List WrittenField) : List Token :=
  withCommas (fs.map (·.allTokens)) ++ [.punctuation ')']

theorem fieldsTokens_nil : fieldsTokens [] = [.punctuation ')'] :=
  rfl

theorem fieldsTokens_cons (f : WrittenField) (fs : List WrittenField) :
    fieldsTokens (f :: fs) = f.allTokens ++ [.punctuation ','] ++ fieldsTokens fs := by
  simp only [fieldsTokens, withCommas, List.map_cons, List.flatMap_cons, List.append_assoc]

theorem length_lt_length_fieldsTokens (fs : List WrittenField) :
    fs.length < (fieldsTokens fs).length := by
  rw [fieldsTokens, List.length_append, List.length_singleton]
  have fewer := length_le_length_withCommas (fs.map (·.allTokens))
  rw [List.length_map] at fewer
  omega

theorem reads_fields {fs : List WrittenField} {bound : ℕ} (enough : fs.length < bound) :
    Reads (separated ')' (pair name (value [] bound maxDepth)) bound) (fieldsTokens fs)
      (fs.map (·.entry)) := by
  have reads : ∀ p ∈ fs.map fun f => (f.allTokens, f.entry),
      Reads (pair name (value [] bound maxDepth)) p.1 p.2 :=
    List.forall_mem_map.mpr fun f _ => f.reads_entry bound
  have opens : ∀ p ∈ fs.map fun f => (f.allTokens, f.entry),
      ∀ more, expect ')' (p.1 ++ more) = none :=
    List.forall_mem_map.mpr fun _ _ _ => rfl
  have all := reads_separated reads opens (by rwa [List.length_map])
  simpa only [fieldsTokens, List.map_map, Function.comp_def] using all

theorem requests_eq_nil {ts : List Token} (unasked : expect '#' ts = none) (bound : ℕ) :
    requests bound ts = some ([], ts) := by
  cases bound with
  | zero => rfl
  | succ bound => rw [requests, unasked]

/-- A document without requests is made of its name, if it has one, and its fields. -/
theorem ofTokens?_eq {all ts : List Token} {name? : Option String} {after : List Char}
    {fields : List (String × Value)} (unasked : expect '#' all = none)
    (titled : title all = some (name?, .parenthesis after :: ts)) (longer : ts.length < all.length)
    (reads : ∀ bound, ts.length < bound →
      Reads (separated ')' (pair name (value [] bound maxDepth)) bound) ts fields) :
    ofTokens? all = some { name?, fields } := by
  have read := reads all.length longer []
  rw [List.append_nil] at read
  simp only [ofTokens?, requests_eq_nil unasked, titled, bind, Option.bind_some]
  simp [guard, expect, Token.mark?, read]

/-- The document of fields that have a comma behind each of them. -/
theorem ofTokens?_fields (after : List Char) (fs : List WrittenField) :
    ofTokens? (.parenthesis after :: fieldsTokens fs) = some { fields := fs.map (·.entry) } := by
  refine ofTokens?_eq rfl rfl (Nat.lt_succ_self _) fun bound enough => ?_
  exact reads_fields ((length_lt_length_fieldsTokens fs).trans enough)

end UniversalMachine.Document
