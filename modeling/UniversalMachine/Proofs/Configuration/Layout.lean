import Mathlib
import UniversalMachine.Configuration.Reader
import UniversalMachine.Configuration.Printer
import UniversalMachine.Proofs.Document.Layout

/-!
The layouts of a configuration. A file may give the fields of a configuration in any order,
with fields of other names among them, under a name or none, with any gaps between its tokens.
What is read from it depends on the values that it gives for the two settings, and on nothing
else.
-/

namespace UniversalMachine.Configuration

open Document

/-- The value of a field that a configuration does not have. -/
inductive ForeignValue where
  | boolean (b : Bool)
  | number (n : ℕ)
  | quotation

/-- A field that a file gives. -/
inductive Entry where
  | maxSteps (limit : Option ℕ)
  | flushEachOutput (b : Bool)
  | foreign (name : String) (unknown : name ∉ [maxStepsField, flushEachOutputField])
      (value : ForeignValue)

def switchElements (b : Bool) : List Element :=
  [.keyword (switchText b)]

def numberValue (n : ℕ) : Value :=
  if n < 2 ^ 64 then .natural (UInt64.ofNat n) else .other

def limitMeaning : Option ℕ → Value
  | none => .absent
  | some n => .present (numberValue n)

namespace Entry

def name : Entry → String
  | maxSteps _ => maxStepsField
  | flushEachOutput _ => flushEachOutputField
  | foreign name _ _ => name

def elements : Entry → List Element
  | maxSteps none => [.keyword "None"]
  | maxSteps (some n) => [.keyword "Some", .parenthesis, .number n, .mark ')']
  | flushEachOutput b => switchElements b
  | foreign _ _ (.boolean b) => switchElements b
  | foreign _ _ (.number n) => [.number n]
  | foreign _ _ .quotation => [.quotation]

def value : Entry → Value
  | maxSteps limit => limitMeaning limit
  | flushEachOutput b => .boolean b
  | foreign _ _ (.boolean b) => .boolean b
  | foreign _ _ (.number n) => numberValue n
  | foreign _ _ .quotation => .other

/-- The limit that the field gives, if it is the field for it. -/
def limit? : Entry → Option (Option ℕ)
  | maxSteps limit => some limit
  | _ => none

/-- The switch that the field gives, if it is the field for it. -/
def switch? : Entry → Option Bool
  | flushEachOutput b => some b
  | _ => none

theorem isChain_elements (entry : Entry) : entry.elements.IsChain Element.Apart := by
  cases entry with
  | maxSteps limit =>
      cases limit with
      | none => exact List.isChain_singleton _
      | some n =>
          have closing : isDelimiter ')' = true := delimits_closing
          simp [elements, Element.Apart, Element.Delimits, closing]
  | flushEachOutput b => exact List.isChain_singleton _
  | foreign name unknown value => cases value <;> exact List.isChain_singleton _

end Entry

/-- The elements of a file by whether it names the configuration, whether a comma follows the
last field, and by its fields. -/
def elements (named trailing : Bool) (entries : List Entry) : List Element :=
  documentElements (if named then some title else none) trailing
    (entries.map fun entry => fieldElements entry.name entry.elements)

def limits (entries : List Entry) : List (Option ℕ) :=
  entries.filterMap (·.limit?)

def switches (entries : List Entry) : List Bool :=
  entries.filterMap (·.switch?)

section
variable (bound depth : ℕ)

theorem reads_value_number (n : ℕ) :
    Reads (value [] bound (depth + 1)) [numberToken n] (numberValue n) := by
  intro more
  rw [numberToken, numberValue]
  split <;> rfl

theorem readsAs_switchElements (b : Bool) :
    ReadsAs (value [] bound (depth + 1)) (switchElements b) (.boolean b) := by
  intro ts stand
  obtain _ | ⟨rfl, ⟨⟩⟩ := stand
  exact reads_value_boolean [] bound depth b

theorem readsAs_number (n : ℕ) :
    ReadsAs (value [] bound (depth + 1)) [.number n] (numberValue n) := by
  intro ts stand
  obtain _ | ⟨rfl, ⟨⟩⟩ := stand
  exact reads_value_number bound depth n

end

theorem Entry.readsAs_elements (entry : Entry) (bound : ℕ) :
    ReadsAs (Document.value [] bound maxDepth) entry.elements entry.value := by
  match entry with
  | maxSteps none =>
      intro ts stand
      obtain _ | ⟨rfl, ⟨⟩⟩ := stand
      exact reads_value_absent [] bound 127
  | maxSteps (some n) =>
      intro ts stand
      obtain _ | ⟨rfl, _ | ⟨⟨after, rfl⟩, _ | ⟨rfl, _ | ⟨rfl, ⟨⟩⟩⟩⟩⟩ := stand
      exact reads_value_present List.not_mem_nil (reads_value_number bound 126 n) after
  | flushEachOutput b | foreign _ _ (.boolean b) => exact readsAs_switchElements bound 127 b
  | foreign _ _ (.number n) => exact readsAs_number bound 127 n
  | foreign _ _ .quotation =>
      intro ts stand
      obtain _ | ⟨rfl, ⟨⟩⟩ := stand
      exact fun _ => rfl

/-- The value of a setting for which so many values are given: the default if there is none, and
no answer if there are several. -/
def settle? {α β : Type} (read : α → Option β) (default : β) : List α → Option β
  | [] => some default
  | [a] => read a
  | _ => none

/-- The limit that a number stands for, if sixty-four bits hold it. -/
def boundedLimit? : Option ℕ → Option (Option UInt64)
  | none => some none
  | some n => if n < 2 ^ 64 then some (some (UInt64.ofNat n)) else none

theorem read?_eq {named trailing : Bool} {entries : List Entry} {text : String}
    (layout : Layout (elements named trailing entries) text.toList) :
    Document.read? text = some
      { name? := if named then some title else none
        fields := entries.map fun entry => (entry.name, entry.value) } :=
  read?_layout (fun entry _ => entry.readsAs_elements) (fun entry _ => entry.isChain_elements)
    layout

/-- The fields of a name are those from which something is picked, and this is what their value
means. -/
def Picks {α : Type} (field : String) (pick : Entry → Option α) (meaning : α → Value) : Prop :=
  ∀ entry : Entry, (entry.name = field ∧ ∃ a, pick entry = some a ∧ entry.value = meaning a) ∨
    (entry.name ≠ field ∧ pick entry = none)

section
variable {α β : Type} {pick : Entry → Option α} {meaning : α → Value} {field : String}
  (picks : Picks field pick meaning)
include picks

theorem filter_entries (entries : List Entry) :
    (entries.map fun entry => (entry.name, entry.value)).filter (·.1 = field) =
      (entries.filterMap pick).map fun a => (field, meaning a) := by
  induction entries with
  | nil => rfl
  | cons entry entries ih =>
      obtain ⟨same, a, given, value⟩ | ⟨other, nothing⟩ := picks entry
      · simp [same, given, value, ih]
      · simp [other, nothing, ih]

/-- A setting is what is made of its value if it has one, and its default if it has none. -/
theorem setting?_entries (name? : Option String) (entries : List Entry) (read : Value → Option β)
    (default : β) :
    setting? { name?, fields := entries.map fun entry => (entry.name, entry.value) } field read
        default =
      settle? (fun a => read (meaning a)) default (entries.filterMap pick) := by
  rw [setting?, Document.field?]
  simp only [filter_entries picks]
  match entries.filterMap pick with
  | [] | [_] | _ :: _ :: _ => rfl

end

theorem limit?_limitMeaning (limit : Option ℕ) :
    limit? false (limitMeaning limit) = boundedLimit? limit := by
  cases limit with
  | none => rfl
  | some n =>
      rw [limitMeaning, numberValue, boundedLimit?]
      split <;> rfl

theorem picks_limit? : Picks maxStepsField Entry.limit? limitMeaning := by
  intro entry
  cases entry with
  | maxSteps limit => exact .inl ⟨rfl, limit, rfl, rfl⟩
  | flushEachOutput b => exact .inr ⟨(by decide : flushEachOutputField ≠ maxStepsField), rfl⟩
  | foreign name unknown value =>
      exact .inr ⟨fun same => unknown (List.mem_cons.mpr (.inl same)), rfl⟩

theorem picks_switch? : Picks flushEachOutputField Entry.switch? .boolean := by
  intro entry
  cases entry with
  | maxSteps limit => exact .inr ⟨(by decide : maxStepsField ≠ flushEachOutputField), rfl⟩
  | flushEachOutput b => exact .inl ⟨rfl, b, rfl, rfl⟩
  | foreign name unknown value =>
      exact .inr ⟨fun same => unknown (List.mem_cons_of_mem _ (List.mem_singleton.mpr same)), rfl⟩

/-- What is read from a file is settled by the values that it gives for the two settings. -/
theorem ofText?_eq {named trailing : Bool} {entries : List Entry} {text : String}
    (layout : Layout (elements named trailing entries) text.toList) :
    ofText? text =
      match settle? boundedLimit? none (limits entries), settle? some false (switches entries) with
      | some maxSteps, some flushEachOutput => some { maxSteps, flushEachOutput }
      | _, _ => none := by
  have titled : ((if named then some title else none).all (· = title)) = true := by
    cases named <;> rfl
  have readLimit : (fun limit => limit? false (limitMeaning limit)) = boundedLimit? :=
    funext limit?_limitMeaning
  have readSwitch : (fun b => switch? (.boolean b)) = some :=
    rfl
  have unmarked : decide (Extension.implicitPresence ∈ ([] : List Extension)) = false :=
    rfl
  rw [ofText?, read?_eq layout, Option.bind_some, ofDocument?]
  simp only [titled, setting?_entries picks_limit?, setting?_entries picks_switch?, guard,
    if_true, unmarked, readLimit, readSwitch, limits, switches]
  cases settle? boundedLimit? none (entries.filterMap Entry.limit?) with
  | none => rfl
  | some limit => cases settle? some false (entries.filterMap Entry.switch?) <;> rfl

section
variable {α β : Type} {read : α → Option β} {default b : β} {as as' : List α}

theorem isSome_settle?_iff :
    (settle? read default as).isSome ↔ as.length ≤ 1 ∧ ∀ a ∈ as, (read a).isSome := by
  match as with
  | [] | [_] | _ :: _ :: _ => simp [settle?]

theorem settle?_cases (settled : settle? read default as = some b) :
    (as = [] ∧ b = default) ∨ ∃ a, as = [a] ∧ read a = some b := by
  match as with
  | [] => exact .inl ⟨rfl, (Option.some.inj settled).symm⟩
  | [a] => exact .inr ⟨a, rfl, settled⟩
  | _ :: _ :: _ => cases settled

theorem settle?_perm (perm : as.Perm as') : settle? read default as = settle? read default as' := by
  match as, as', perm.length_eq with
  | [], [], _ => rfl
  | [_], [_], _ => rw [List.singleton_perm_singleton.mp perm]
  | _ :: _ :: _, _ :: _ :: _, _ => rfl

end

theorem isSome_boundedLimit?_iff {limit : Option ℕ} :
    (boundedLimit? limit).isSome ↔ ∀ n, limit = some n → n ≤ 2 ^ 64 - 1 := by
  cases limit with
  | none => simp [boundedLimit?]
  | some n =>
      rw [boundedLimit?]
      split <;> simp <;> omega

theorem toNat_of_boundedLimit? {limit : Option ℕ} {bounded : Option UInt64}
    (read : boundedLimit? limit = some bounded) : bounded.map UInt64.toNat = limit := by
  cases limit with
  | none =>
      obtain rfl := Option.some.inj read
      rfl
  | some n =>
      obtain ⟨fits, same⟩ := Option.ite_none_right_eq_some.mp read
      obtain rfl := Option.some.inj same
      rw [Option.map_some, UInt64.toNat_ofNat_of_lt' fits]

theorem exists_ofText?_iff {named trailing : Bool} {entries : List Entry} {text : String}
    (layout : Layout (elements named trailing entries) text.toList) :
    (∃ c, ofText? text = some c) ↔ (settle? boundedLimit? none (limits entries)).isSome ∧
      (settle? some false (switches entries)).isSome := by
  rw [ofText?_eq layout]
  cases settle? boundedLimit? none (limits entries) <;>
    cases settle? some false (switches entries) <;> simp

theorem settle?_of_ofText? {named trailing : Bool} {entries : List Entry} {text : String}
    {c : Configuration} (layout : Layout (elements named trailing entries) text.toList)
    (read : ofText? text = some c) :
    settle? boundedLimit? none (limits entries) = some c.maxSteps ∧
      settle? some false (switches entries) = some c.flushEachOutput := by
  rw [ofText?_eq layout] at read
  split at read
  next limit switch =>
    obtain rfl := Option.some.inj read
    exact ⟨limit, switch⟩
  next => cases read

/-- The layout of a configuration does not matter. A file that gives the fields of a configuration
and others, in any order, in any layout and with or without a name and a last comma, is accepted
if and only if neither field of a configuration is given twice and sixty-four bits hold the limit.
The settings are then those that are given, or else the defaults. Two files that give the same
values for both fields are read alike, whatever else is different in them. -/
theorem layout_immaterial {named trailing : Bool} {entries : List Entry} {text : String}
    (layout : Layout (elements named trailing entries) text.toList) :
    ((∃ c, ofText? text = some c) ↔
      (limits entries).length ≤ 1 ∧ (switches entries).length ≤ 1 ∧
        ∀ n, some n ∈ limits entries → n ≤ 2 ^ 64 - 1) ∧
    (∀ c, ofText? text = some c →
      c.maxSteps.map UInt64.toNat = (limits entries).head?.getD none ∧
        c.flushEachOutput = (switches entries).head?.getD false) ∧
    ∀ (named' trailing' : Bool) (entries' : List Entry) (text' : String),
      Layout (elements named' trailing' entries') text'.toList →
        (limits entries).Perm (limits entries') → (switches entries).Perm (switches entries') →
          ofText? text' = ofText? text := by
  refine ⟨?_, fun c read => ?_,
    fun named' trailing' entries' text' layout' sameLimits sameSwitches => ?_⟩
  · have fit : (∀ limit ∈ limits entries, (boundedLimit? limit).isSome) ↔
        ∀ n, some n ∈ limits entries → n ≤ 2 ^ 64 - 1 := by
      simp only [isSome_boundedLimit?_iff]
      exact ⟨fun all n mem => all _ mem n rfl, fun all limit mem n same => all n (same ▸ mem)⟩
    have readable (as : List Bool) : ∀ b ∈ as, (some b).isSome := fun _ _ => rfl
    rw [exists_ofText?_iff layout, isSome_settle?_iff, isSome_settle?_iff, fit,
      and_iff_left (readable _), and_right_comm, and_assoc]
  · obtain ⟨limit, switch⟩ := settle?_of_ofText? layout read
    constructor
    · obtain ⟨absent, default⟩ | ⟨given, only, fits⟩ := settle?_cases limit
      · simp [absent, default]
      · simp [only, toNat_of_boundedLimit? fits]
    · obtain ⟨absent, default⟩ | ⟨given, only, same⟩ := settle?_cases switch
      · simp [absent, default]
      · simp [only, Option.some.inj same]
  · rw [ofText?_eq layout, ofText?_eq layout', settle?_perm sameLimits, settle?_perm sameSwitches]

/-- A file with comments, a field of another name and zeros in front of the limit is read like one
that gives the same two settings on a line. -/
theorem layouts_read_alike :
    let entries : List Entry :=
      [.foreign "note" (by decide) .quotation, .flushEachOutput true, .maxSteps (some 7)]
    let text := "/*/**/*/MachineConfig (note: \"\\n\", flush_each_output:true,max_steps:Some(007),)//"
    let entries' : List Entry := [.maxSteps (some 7), .flushEachOutput true]
    let text' := "(max_steps:Some(7),flush_each_output:true)"
    Layout (elements true true entries) text.toList ∧
      Layout (elements false false entries') text'.toList ∧
      ∃ c, ofText? text = some c ∧ c.maxSteps.map UInt64.toNat = some 7 ∧
        c.flushEachOutput = true ∧ ofText? text' = some c := by
  intro entries text entries' text'
  have space : Gap [' '] := .blank rfl .nil
  have comment : Gap _ := .blockComment (.nest .close .close) .nil
  have quotation : Quotation _ := .escape (.mark (by decide : 'n' ∈ _)) .close
  have colon : Spells (.mark ':') _ := .mark (by decide)
  have comma : Spells (.mark ',') _ := .mark (by decide)
  have closing : Spells (.mark ')') _ := .mark (by decide)
  have note : Spells (.name "note") _ := .name (by decide +kernel)
  have switch : Spells (.name flushEachOutputField) _ := .name (by decide +kernel)
  have limit : Spells (.name maxStepsField) _ := .name (by decide +kernel)
  have yes : Spells (.keyword "true") _ := .keyword (by decide +kernel)
  have present : Spells (.keyword "Some") _ := .keyword (by decide +kernel)
  have layout : Layout (elements true true entries) text.toList := by
    have pieces : Layout (elements true true entries) _ :=
      .element comment (.name (by decide +kernel)) <| .element space .parenthesis <|
      .element .nil note <| .element .nil colon <| .element space (.quotation quotation) <|
      .element .nil comma <|
      .element space switch <| .element .nil colon <| .element .nil yes <| .element .nil comma <|
      .element .nil limit <| .element .nil colon <| .element .nil present <|
      .element .nil .parenthesis <| .element .nil (.number 3 7) <| .element .nil closing <|
      .element .nil comma <| .element .nil closing <|
      .final (.lineComment .nil List.not_mem_nil)
    convert pieces using 1
    decide +kernel
  have layout' : Layout (elements false false entries') text'.toList := by
    have pieces : Layout (elements false false entries') _ :=
      .element .nil .parenthesis <|
      .element .nil limit <| .element .nil colon <| .element .nil present <|
      .element .nil .parenthesis <| .element .nil (.number 1 7) <| .element .nil closing <|
      .element .nil comma <|
      .element .nil switch <| .element .nil colon <| .element .nil yes <|
      .element .nil closing <| .final (.gap .nil)
    convert pieces using 1
    decide +kernel
  obtain ⟨accepted, settled, alike⟩ := layout_immaterial layout
  obtain ⟨c, read⟩ := accepted.mpr ⟨le_rfl, le_rfl, by simp [limits, entries, Entry.limit?]⟩
  obtain ⟨maxSteps, flushEachOutput⟩ := settled c read
  have same := alike false false entries' text' layout' (.refl _) (.refl _)
  exact ⟨layout, layout', c, read, maxSteps, flushEachOutput, same.trans read⟩

/-- A field that is given twice is refused, even where both values are the same. -/
example : ofText? "(max_steps: None, max_steps: None)" = none := by
  decide +kernel

end UniversalMachine.Configuration
