import SchemaReview.Proofs.Lint.Issues
import SchemaReview.Proofs.Pattern.Plain

/-!
# Names against presets

A preset is an alphabet together with the characters of it that a name may begin with; the names
that follow it are its words. As a pattern ends where the last line does, a word with a line end
after it passes for a word. The rules that hold names against a preset report all other names, each
in its place, and never stop.
-/
namespace SchemaReview.Lint

open Pattern

inductive Preset where
  | camelCase
  | pascalCase
  | snakeCase
  | screamingSnakeCase
  | uppercase
deriving DecidableEq, Repr

namespace Preset

/-! ### Words -/

def text : Preset → String
  | .camelCase => "camelCase"
  | .pascalCase => "PascalCase"
  | .snakeCase => "snake_case"
  | .screamingSnakeCase => "SCREAMING_SNAKE_CASE"
  | .uppercase => "UPPERCASE"

theorem mem_presets {word : String} :
    word ∈ presets.map Prod.fst ↔ ∃ p : Preset, p.text = word := by
  constructor
  · intro listed
    simp only [presets, List.map_cons, List.map_nil, List.mem_cons, List.not_mem_nil,
      or_false] at listed
    obtain rfl | rfl | rfl | rfl | rfl := listed
    · exact ⟨.camelCase, rfl⟩
    · exact ⟨.pascalCase, rfl⟩
    · exact ⟨.snakeCase, rfl⟩
    · exact ⟨.screamingSnakeCase, rfl⟩
    · exact ⟨.uppercase, rfl⟩
  · rintro ⟨p, rfl⟩
    cases p <;> decide

/-- The alphabet of a preset. -/
@[simp] def allows (p : Preset) (c : Char) : Bool :=
  match p with
  | .camelCase | .pascalCase => c.isAlphanum
  | .snakeCase => c.isLower || c.isDigit || c == '_'
  | .screamingSnakeCase => c.isUpper || c.isDigit || c == '_'
  | .uppercase => c.isUpper || c == '_'

/-- The characters that a name may begin with. -/
@[simp] def begins (p : Preset) (c : Char) : Bool :=
  match p with
  | .camelCase | .snakeCase => c.isLower
  | .pascalCase | .screamingSnakeCase => c.isUpper
  | .uppercase => c.isUpper || c == '_'

/-- A name that follows a preset. -/
structure IsWord (p : Preset) (name : String) : Prop where
  nonempty : name ≠ ""
  allowed : ∀ c ∈ name.toList, p.allows c = true
  begun : ∀ c ∈ name.toList.head?, p.begins c = true

/-- A word, or one with a line end after it. -/
def Takes (p : Preset) (name : String) : Prop :=
  ∃ word, p.IsWord word ∧ (name = word ∨ name = word ++ "\n")

variable {p : Preset} {name : String}

theorem allows_of_begins {c : Char} (h : p.begins c = true) : p.allows c = true := by
  cases p <;> simp_all [Char.isAlphanum, Char.isAlpha]

theorem isWord_iff : p.IsWord name ↔
    ∃ c rest, name.toList = c :: rest ∧ p.begins c = true ∧ ∀ d ∈ rest, p.allows d = true := by
  constructor
  · rintro ⟨nonempty, allowed, begun⟩
    cases whole : name.toList with
    | nil => exact absurd (String.toList_eq_nil_iff.mp whole) nonempty
    | cons c rest =>
      rw [whole, List.forall_mem_cons] at allowed
      exact ⟨c, rest, rfl, begun c (by simp [whole]), allowed.2⟩
  · rintro ⟨c, rest, whole, first, others⟩
    refine ⟨?_, ?_, ?_⟩
    · rintro rfl
      cases whole
    · rw [whole, List.forall_mem_cons]
      exact ⟨allows_of_begins first, others⟩
    · simpa [whole] using first

theorem takes_iff : p.Takes name ↔
    ∃ c rest, name.toList = c :: rest ∧ p.begins c = true ∧ IsRunToEnd 0 p.allows rest := by
  constructor
  · rintro ⟨word, isWord, ending⟩
    obtain ⟨c, letters, whole, first, others⟩ := isWord_iff.mp isWord
    obtain rfl | rfl := ending
    · exact ⟨c, letters, whole, first, letters, [], by simp, Nat.zero_le _, others, .inl rfl⟩
    · refine ⟨c, letters ++ ['\n'], ?_, first, letters, ['\n'], rfl, Nat.zero_le _, others, ?_⟩
      · simp [String.toList_append, whole]
      · exact .inr rfl
  · rintro ⟨c, _, whole, first, letters, ending, rfl, -, others, isEnd⟩
    refine ⟨String.ofList (c :: letters), isWord_iff.mpr ⟨c, letters, by simp, first, others⟩, ?_⟩
    obtain rfl | rfl := isEnd
    · left
      simp [← String.toList_inj, whole]
    · right
      simp [← String.toList_inj, whole]

theorem not_takes_empty (p : Preset) : ¬ p.Takes "" := by
  rw [takes_iff]
  rintro ⟨c, rest, whole, -⟩
  cases whole

/-- No word ends with a line. -/
theorem not_isWord_lineEnd (p : Preset) (word : String) : ¬ p.IsWord (word ++ "\n") := by
  intro isWord
  have last : p.allows '\n' = true := isWord.allowed '\n' (by simp [String.toList_append])
  cases p <;> simp at last

-- Spelled with `all`, as the quantifiers would be decided by trying every character there is.
instance (p : Preset) : DecidablePred p.IsWord := fun name =>
  decidable_of_iff (name ≠ "" ∧ name.toList.all p.allows = true ∧
    name.toList.head?.all p.begins = true) (by
    rw [List.all_eq_true, Option.all_eq_true]
    exact ⟨fun h => ⟨h.1, h.2.1, h.2.2⟩, fun h => ⟨h.nonempty, h.allowed, h.begun⟩⟩)

/-- A text is a word, or what is left of it without its last character is, and that is a line
end. -/
instance (p : Preset) : DecidablePred p.Takes := fun name =>
  decidable_of_iff (p.IsWord name ∨ (name.toList.getLast? = some '\n' ∧
    p.IsWord (String.ofList name.toList.dropLast))) (by
    constructor
    · rintro (isWord | ⟨last, isWord⟩)
      · exact ⟨name, isWord, .inl rfl⟩
      · refine ⟨_, isWord, .inr ?_⟩
        simp [← String.toList_inj, List.dropLast_append_getLast? '\n' last]
    · rintro ⟨word, isWord, rfl | rfl⟩
      · exact .inl isWord
      · exact .inr (by simpa [String.toList_append] using isWord))

/-! ### Their patterns -/

@[simp] theorem contains_lower (c : Char) :
    SetItem.contains {} c (.range 0x61 0x7A) = c.isLower := by
  simp [SetItem.contains, Char.isLower, UInt32.le_iff_toNat_le]

@[simp] theorem contains_upper (c : Char) :
    SetItem.contains {} c (.range 0x41 0x5A) = c.isUpper := by
  simp [SetItem.contains, Char.isUpper, UInt32.le_iff_toNat_le]

@[simp] theorem contains_digit (c : Char) :
    SetItem.contains {} c (.range 0x30 0x39) = c.isDigit := by
  simp [SetItem.contains, Char.isDigit, UInt32.le_iff_toNat_le]

@[simp] theorem contains_underscore (c : Char) :
    SetItem.contains {} c (.single 0x5F) = (c == '_') := by
  rw [Bool.eq_iff_iff]
  simp [SetItem.contains, ← Char.toNat_inj]

/-- The set of the alphabet in the pattern of a preset. -/
@[simp] def alphabet : Preset → List SetItem
  | .camelCase | .pascalCase => [.range 0x61 0x7A, .range 0x41 0x5A, .range 0x30 0x39]
  | .snakeCase => [.range 0x61 0x7A, .range 0x30 0x39, .single 0x5F]
  | .screamingSnakeCase => [.range 0x41 0x5A, .range 0x30 0x39, .single 0x5F]
  | .uppercase => [.range 0x41 0x5A, .single 0x5F]

/-- The set of the characters to begin with in the pattern of a preset. -/
@[simp] def initials : Preset → List SetItem
  | .camelCase | .snakeCase => [.range 0x61 0x7A]
  | .pascalCase | .screamingSnakeCase => [.range 0x41 0x5A]
  | .uppercase => [.range 0x41 0x5A, .single 0x5F]

theorem setHolds_alphabet (p : Preset) : setHolds {} p.alphabet = p.allows := by
  funext c
  cases p <;> simp [setHolds, Char.isAlphanum, Char.isAlpha, Bool.or_assoc, Bool.or_left_comm]

theorem setHolds_initials (p : Preset) : setHolds {} p.initials = p.begins := by
  funext c
  cases p <;> simp [setHolds]

/-- The pattern of a preset. In `UPPERCASE` a name may begin with any character of the alphabet. -/
def pattern : Preset → Node
  | .uppercase => runPattern uppercase.alphabet
  | p => wordPattern p.initials p.alphabet

def convention (p : Preset) : Convention := ⟨⟨p.pattern, 1⟩, p.text⟩

@[simp] theorem label_convention (p : Preset) : p.convention.label = p.text := rfl

theorem ofText_text (p : Preset) : Convention.ofText p.text = .ok p.convention := by
  have listed : ∃ spelling, presets.lookup p.text = some spelling ∧
      Expression.ofText spelling = .ok ⟨p.pattern, 1⟩ := by
    cases p <;> exact ⟨_, rfl, by decide +kernel⟩
  obtain ⟨spelling, found, read⟩ := listed
  unfold Convention.ofText
  simp only [found, read]
  rfl

theorem isPlain_pattern (p : Preset) : p.pattern.isPlain = true := by
  cases p <;> rfl

theorem ends_pattern_ne_nil {chars : List Char} :
    p.pattern.ends chars.toArray 0 ≠ [] ↔
      ∃ c rest, chars = c :: rest ∧ p.begins c = true ∧ IsRunToEnd 0 p.allows rest := by
  rw [← setHolds_alphabet, ← setHolds_initials]
  cases p with
  | uppercase => exact ends_runPattern_ne_nil
  | _ => exact ends_wordPattern_ne_nil

/-- A preset takes words, with a line end after them or without one, and no other names. -/
theorem accepts_convention (p : Preset) (name : String) :
    p.convention.accepts name = .ok (decide (p.Takes name)) := by
  unfold Convention.accepts
  by_cases empty : name = ""
  · rw [if_pos empty, empty, decide_eq_false p.not_takes_empty]
  · have long : 1 ≤ name.toList.length := by
      rw [Nat.one_le_iff_ne_zero, ne_eq, List.length_eq_zero_iff, String.toList_eq_nil_iff]
      exact empty
    have same : (p.convention.expression.least ≤ name.toList.length ∧
        p.pattern.ends name.toList.toArray 0 ≠ []) ↔ p.Takes name := by
      rw [takes_iff, ends_pattern_ne_nil]
      exact and_iff_right long
    rw [if_neg empty, match?_plain p.isPlain_pattern]
    exact congrArg Except.ok (decide_eq_decide.mpr same)

/-- A preset is right about all names but words with a line end after them. -/
theorem accepts_convention_iff (p : Preset) (name : String) :
    p.convention.accepts name = .ok (decide (p.IsWord name)) ↔
      ∀ word, p.IsWord word → name ≠ word ++ "\n" := by
  rw [accepts_convention, Except.ok.injEq, decide_eq_decide]
  constructor
  · rintro same word isWord rfl
    exact p.not_isWord_lineEnd word (same.mp ⟨word, isWord, .inr rfl⟩)
  · intro apart
    constructor
    · rintro ⟨word, isWord, rfl | rfl⟩
      · exact isWord
      · exact absurd rfl (apart word isWord)
    · exact fun isWord => ⟨name, isWord, .inl rfl⟩

end Preset

/-! ### The rules that look at names -/

variable {p : Preset} {id : RuleId} {options : Options} {d : Document} {v : Visit}

/-- A rule holds names against a preset: the one that its options give, or its default one if they
give no pattern. -/
structure RuleId.HasPreset (id : RuleId) (options : Options) (p : Preset) : Prop where
  checked : id.rule.optionCheck = some .pattern
  given : (Datum.textEntry? options "pattern").or
    (Datum.textEntry? id.rule.defaultOptions "pattern") = some (.str p.text)

/-- A name that a rule holds against its pattern, and what it reports unless the name follows. -/
structure TestedName where
  name : String
  finding : Finding

/-- The text of a name. An absent name counts as empty. -/
def nameText : Json → String
  | .str s => s
  | _ => ""

/-- The names that a rule tests at a node. -/
@[simp] def RuleId.testedNames (id : RuleId) (label : String) (node : Schema) : List TestedName :=
  match id with
  | .namingConvention =>
    if node.name.isTruthy then
      [⟨nameText node.name, { message := "Name '" ++ node.name.toText ++ "' does not follow " ++
        label ++ " convention" }⟩]
    else []
  | .messageNaming =>
    [⟨nameText node.name, { message := "Message '" ++ node.name.toText ++ "' does not follow " ++
      label ++ " convention" }⟩]
  | .enumUppercase =>
    node.symbols.map fun s => ⟨s, { message := "Enum symbol '" ++ s ++ "' should be uppercase" }⟩
  | .fieldNaming =>
    node.fields.map fun f => ⟨f.name, {
      message := "Field '" ++ f.name ++ "' in message '" ++ node.name.toText ++
        "' does not follow " ++ label ++ " convention"
      path := [.name f.name] }⟩
  | _ => []

/-- What is reported of tested names: those that a preset does not take. -/
@[simp] def Preset.missed (p : Preset) (tests : List TestedName) : List Finding :=
  (tests.filter fun t => !decide (p.Takes t.name)).map TestedName.finding

theorem Preset.missed_singleton (p : Preset) (t : TestedName) :
    p.missed [t] = if p.Takes t.name then [] else [t.finding] := by
  by_cases takes : p.Takes t.name <;> simp [takes]

theorem optionConvention_preset {default : String}
    (given : (Datum.textEntry? options "pattern").or (some (.str default)) = some (.str p.text)) :
    optionConvention options default = .ok p.convention := by
  unfold optionConvention
  cases entry : Datum.textEntry? options "pattern" with
  | none =>
    rw [entry, Option.none_or] at given
    cases given
    exact congrArg failOption p.ofText_text
  | some value =>
    rw [entry, Option.some_or] at given
    cases given
    exact congrArg failOption p.ofText_text

/-- A name is tested, unless it is no text. -/
theorem nameFollows_preset (p : Preset) (name : Json) :
    nameFollows p.convention name = .ok (decide (p.Takes (nameText name))) ∨
      name.isTextOrNull = false ∧
        ∃ fault, nameFollows p.convention name = .error (.type fault) := by
  unfold nameFollows
  by_cases present : name.isTruthy = true
  · rw [if_neg (by simp [present])]
    cases name with
    | null => cases present
    | str s =>
      left
      show failMatch (p.convention.accepts s) = _
      rw [p.accepts_convention]
      rfl
    | _ => exact .inr ⟨rfl, _, rfl⟩
  · left
    have empty : nameText name = "" := by
      cases name with
      | str s => simpa [nameText, Json.isTruthy] using present
      | _ => rfl
    rw [if_pos (by simpa using present), empty, decide_eq_false p.not_takes_empty]

theorem atFields_eq_ok {fields : List Field} {f : Field → Except Failure Bool}
    {test : Field → Bool} {message : Field → String} (h : ∀ x ∈ fields, f x = .ok (test x)) :
    atFields fields f message =
      .ok ((fields.filter test).map fun x => { message := message x, path := [.name x.name] }) := by
  induction fields with
  | nil => rfl
  | cons x rest ih =>
    rw [List.forall_mem_cons] at h
    rw [atFields, h.1, ih h.2]
    cases chosen : test x <;> simp [chosen, bind, Except.bind, pure, Except.pure]

/-- What a check comes to that holds the names of a node against a preset: it reports those that the
preset does not take, unless the name of the node is no text. -/
def Preset.Reports (p : Preset) (node : Schema) (tests : List TestedName) (found : Findings) :
    Prop :=
  found = .ok (p.missed tests) ∨
    node.name.isTextOrNull = false ∧ ∃ fault, found = .error (.type fault)

theorem reports_of_nameFollows (p : Preset) (node : Schema) (message : String) :
    p.Reports node [⟨nameText node.name, { message := message }⟩]
      (nameFollows p.convention node.name >>= fun follows =>
        if follows then return [] else return one message) := by
  obtain followed | ⟨stray, fault, failed⟩ := nameFollows_preset p node.name
  · left
    rw [followed, p.missed_singleton]
    by_cases takes : p.Takes (nameText node.name) <;>
      simp [takes, one, bind, Except.bind, pure, Except.pure]
  · right
    rw [failed]
    exact ⟨stray, fault, rfl⟩

theorem reports_checkNaming {node : Schema}
    (made : optionConvention options "camelCase" = .ok p.convention) :
    p.Reports node (RuleId.namingConvention.testedNames p.text node)
      (checkNaming node options) := by
  unfold checkNaming
  by_cases present : node.name.isTruthy = true
  · rw [if_neg (by simp [present]), made]
    have tested : RuleId.namingConvention.testedNames p.text node = [⟨nameText node.name, {
        message := "Name '" ++ node.name.toText ++ "' does not follow " ++ p.text ++
          " convention" }⟩] := if_pos present
    rw [tested]
    exact reports_of_nameFollows p node _
  · left
    rw [if_pos (by simpa using present)]
    simp [present]

theorem reports_checkMessageNaming {node : Schema}
    (made : optionConvention options "PascalCase" = .ok p.convention) :
    p.Reports node (RuleId.messageNaming.testedNames p.text node)
      (checkMessageNaming node options) := by
  unfold checkMessageNaming
  rw [made]
  exact reports_of_nameFollows p node _

theorem checkEnumSymbols_eq_ok {node : Schema}
    (made : optionConvention options "UPPERCASE" = .ok p.convention) :
    checkEnumSymbols node options =
      .ok (p.missed (RuleId.enumUppercase.testedNames p.text node)) := by
  unfold checkEnumSymbols
  have kept : (node.symbols.filterM fun s => do return !(← failMatch (p.convention.accepts s))) =
      .ok (node.symbols.filter fun s => !decide (p.Takes s)) :=
    filterM_eq_ok fun s _ => by
      rw [p.accepts_convention]
      rfl
  by_cases empty : node.symbols.isEmpty = true
  · rw [if_pos empty]
    rw [List.isEmpty_iff] at empty
    simp [empty, pure, Except.pure]
  · rw [if_neg empty, made]
    show ((node.symbols.filterM fun s => do return !(← failMatch (p.convention.accepts s))) >>=
      fun refused => Except.ok (refused.map fun s =>
        ({ message := "Enum symbol '" ++ s ++ "' should be uppercase" } : Finding))) = _
    rw [kept]
    simp [List.filter_map, Function.comp_def, bind, Except.bind]

theorem checkFieldNaming_eq_ok {node : Schema}
    (made : optionConvention options "snake_case" = .ok p.convention) :
    checkFieldNaming node options =
      .ok (p.missed (RuleId.fieldNaming.testedNames p.text node)) := by
  unfold checkFieldNaming
  have tested : ∀ f ∈ node.fields, (do return !(← failMatch (p.convention.accepts f.name))) =
      (.ok !decide (p.Takes f.name) : Except Failure Bool) := by
    intro f _
    rw [p.accepts_convention]
    rfl
  rw [made]
  show atFields _ _ _ = _
  rw [atFields_eq_ok tested]
  simp [List.filter_map, Function.comp_def]

/-- A rule reports the names that its preset does not take. -/
theorem reports_check (has : id.HasPreset options p) :
    p.Reports v.node (id.testedNames p.text v.node) (id.check d v options) := by
  obtain ⟨checked, given⟩ := has
  cases id with
  | namingConvention => exact reports_checkNaming (optionConvention_preset given)
  | messageNaming => exact reports_checkMessageNaming (optionConvention_preset given)
  | enumUppercase => exact .inl (checkEnumSymbols_eq_ok (optionConvention_preset given))
  | fieldNaming => exact .inl (checkFieldNaming_eq_ok (optionConvention_preset given))
  | _ => cases checked

/-! ### Runs -/

/-- A preset breaks at no name, so a rule that has one stops nowhere. -/
theorem RuleId.HasPreset.not_stops {e : Failure} (has : id.HasPreset options p) :
    ¬ id.Stops v options e := by
  have whole {name : String} : ¬ BreaksAt options name e := by
    rintro ⟨text, c, entry, made, broken, -⟩
    have given := has.given
    rw [entry, Option.some_or] at given
    cases given
    rw [p.ofText_text] at made
    cases made
    rw [p.accepts_convention] at broken
    cases broken
  have checked := has.checked
  cases id with
  | namingConvention | messageNaming | enumUppercase | fieldNaming =>
    rintro ⟨name, -, breaks⟩
    exact whole breaks
  | _ => cases checked

variable {rules : RuleSet} {issues : List Issue}

/-- In a run that comes to its end every check has come to one. -/
theorem exists_check_of_lint (ran : lint d rules = .ok issues) (hv : v ∈ d.root.walk)
    (language : id.rule.format = d.format) (enabled : rules.isEnabled id = true)
    (applies : id.rule.applies v = true) :
    ∃ findings, id.check d v (rules.config id).options = .ok findings := by
  obtain ⟨lists, walked, -⟩ := bind_eq_ok.mp ran
  obtain ⟨reported, -, visited⟩ := of_mapM_eq_ok walked v hv
  obtain ⟨parts, asked, -⟩ := bind_eq_ok.mp visited
  have active : (id, rules.config id) ∈ activeRules rules d.format :=
    mem_activeRules.mpr ⟨language, rfl, enabled⟩
  obtain ⟨own, -, looked⟩ := of_mapM_eq_ok asked _ active
  unfold ruleIssues at looked
  rw [if_pos applies] at looked
  obtain ⟨findings, checked, -⟩ := bind_eq_ok.mp looked
  exact ⟨findings, checked⟩

/-- The issues of a rule with a preset in a document: one for each name that the rule tests and the
preset does not take. -/
def Preset.issuesIn (p : Preset) (id : RuleId) (config : RuleConfig) (d : Document) : List Issue :=
  (d.root.walk.filter id.rule.applies).flatMap fun v =>
    (p.missed (id.testedNames p.text v.node)).map (issueOf id config v)

theorem issuesOf_preset (ran : lint d rules = .ok issues) (language : id.rule.format = d.format)
    (enabled : rules.isEnabled id = true) (has : id.HasPreset (rules.config id).options p) :
    issuesOf id issues = p.issuesIn id (rules.config id) d := by
  have passes : ∀ v ∈ d.root.walk, id.rule.applies v = false →
      ownIssues d id (rules.config id) v = [] := by
    intro v _ passed
    exact if_neg fun all => by simp [passed] at all
  rw [issuesOf_lint ran, ← flatMap_filter passes]
  refine List.flatMap_congr fun v hv => ?_
  obtain ⟨hv, applies⟩ := List.mem_filter.mp hv
  obtain ⟨findings, checked⟩ := exists_check_of_lint ran hv language enabled applies
  unfold ownIssues
  rw [if_pos ⟨language, enabled, applies⟩]
  obtain reported | ⟨-, fault, failed⟩ := reports_check (d := d) (v := v) has
  · rw [reported]
  · rw [failed] at checked
    cases checked

/-- A run stops for a rule without a preset. -/
def StopsElsewhere (rules : RuleSet) (d : Document) (e : Failure) : Prop :=
  ∃ v ∈ d.root.walk, ∃ rule ∈ activeRules rules d.format, rule.1.rule.applies v = true ∧
    rule.1.Stops v rule.2.options e ∧ ∀ p, ¬ rule.1.HasPreset rule.2.options p

theorem stopsAt_iff_elsewhere {e : Failure} : StopsAt rules d e ↔ StopsElsewhere rules d e := by
  constructor
  · rintro ⟨v, hv, rule, hr, applies, stops⟩
    exact ⟨v, hv, rule, hr, applies, stops, fun p has => has.not_stops stops⟩
  · rintro ⟨v, hv, rule, hr, applies, stops, -⟩
    exact ⟨v, hv, rule, hr, applies, stops⟩

/-- The presets have five names. A preset takes its words, also with a line end after them, and no
other names, and so it is right unless a name is such a word with a line end. Where a run comes to
its end, a rule that has a preset reports all names that it tests and the preset does not take, and
nothing else; and no run stops for it. -/
theorem presets_exact (p : Preset) (name : String) (d : Document) (rules : RuleSet) :
    (∀ word, word ∈ presets.map Prod.fst ↔ ∃ q : Preset, q.text = word) ∧
    (∃ c, Convention.ofText p.text = .ok c ∧ c.label = p.text ∧
      c.accepts name = .ok (decide (p.Takes name)) ∧
      (c.accepts name = .ok (decide (p.IsWord name)) ↔
        ∀ word, p.IsWord word → name ≠ word ++ "\n")) ∧
    (∀ (issues : List Issue) (id : RuleId), lint d rules = .ok issues →
      id.rule.format = d.format → rules.isEnabled id = true →
        id.HasPreset (rules.config id).options p →
          issuesOf id issues = p.issuesIn id (rules.config id) d) ∧
    (IsConfigured rules → d.root.HasTextNames (d.format != .jsonSchema) →
      EndsFor (StopsElsewhere rules d) (lint d rules)) := by
  refine ⟨fun word => Preset.mem_presets, ?_, fun issues id => issuesOf_preset,
    fun configured named => ?_⟩
  · exact ⟨p.convention, p.ofText_text, p.label_convention, p.accepts_convention name,
      p.accepts_convention_iff name⟩
  · have ends : EndsFor (StopsAt rules d) (lint d rules) :=
      ends_lint configured.isUsable d (.inl named)
    exact ends.congr fun e => stopsAt_iff_elsewhere

/-- An enum whose name and last symbol end with a line. -/
def hueText : String :=
  "\x7b\"type\":\"enum\",\"name\":\"hue\\n\",\"namespace\":\"n\",\"doc\":\"d\"," ++
    "\"symbols\":[\"DARK\",\"light\",\"DIM\\n\"]\x7d"

def hueDocument : Document :=
  { format := .avro
    root := { kind := .enum, name := .str "hue\n", qualifier := some "n", documentation := .str "d",
              symbols := ["DARK", "light", "DIM\n"] } }

/-- The only issue of the document under the default rules. -/
def lightIssue : Issue :=
  { ruleId := "enum_uppercase", severity := .warning,
    message := "Enum symbol 'light' should be uppercase" }

/-- What is read of the text under the default rules. -/
theorem lint_hueText :
    parse hueText .avro = .ok hueDocument ∧ lint hueDocument .defaults = .ok [lightIssue] := by
  have spelled : hueText = String.ofList _ := spelled_append rfl rfl
  have read : jsonOfSchemaText hueText = .ok (.obj [("type", .str "enum"), ("name", .str "hue\n"),
      ("namespace", .str "n"), ("doc", .str "d"),
      ("symbols", .arr [.str "DARK", .str "light", .str "DIM\n"])]) :=
    jsonOfSchemaText_eq_ok.mpr (Json.ofText_of_spelled spelled (by cbv))
  exact ⟨parse_avro_eq_ok.mpr ⟨_, _, read, by cbv, rfl⟩, by decide +kernel⟩

/-- Of the names in the document only one is reported, and no rule stops at any of them. -/
theorem presets_exact_hue :
    IsConfigured .defaults ∧ hueDocument.root.HasTextNames (hueDocument.format != .jsonSchema) ∧
      RuleId.enumUppercase.HasPreset (RuleSet.defaults.config .enumUppercase).options .uppercase ∧
      RuleId.namingConvention.HasPreset (RuleSet.defaults.config .namingConvention).options
        .camelCase ∧
      ∃ issues, lint hueDocument .defaults = .ok issues ∧
        issuesOf .enumUppercase issues = [lightIssue] ∧ issuesOf .namingConvention issues = [] ∧
        ∀ e, ¬ StopsElsewhere .defaults hueDocument e := by
  have named : hueDocument.root.HasTextNames (hueDocument.format != .jsonSchema) := by
    intro _
    decide
  have symbols : RuleId.enumUppercase.HasPreset
      (RuleSet.defaults.config .enumUppercase).options .uppercase := ⟨rfl, rfl⟩
  have name : RuleId.namingConvention.HasPreset
      (RuleSet.defaults.config .namingConvention).options .camelCase := ⟨rfl, rfl⟩
  have ran := lint_hueText.2
  obtain ⟨-, -, reportsSymbols, ends⟩ := presets_exact .uppercase "light" hueDocument .defaults
  obtain ⟨-, -, reportsName, -⟩ := presets_exact .camelCase "hue\n" hueDocument .defaults
  obtain ⟨-, clear⟩ | ⟨e, failed, -⟩ := ends .defaults named
  · have light := reportsSymbols _ _ ran rfl rfl symbols
    have none := reportsName _ _ ran rfl rfl name
    exact ⟨.defaults, named, symbols, name, _, ran, light.trans rfl, none.trans rfl, clear⟩
  · rw [ran] at failed
    cases failed

/-- A line end after a word goes unnoticed. -/
theorem wordWithLineEnd_passes :
    (∃ c, Convention.ofText "camelCase" = .ok c ∧ c.accepts "hue\n" = .ok true) ∧
      ¬ Preset.camelCase.IsWord "hue\n" ∧ ¬ Preset.uppercase.IsWord "DIM\n" ∧
      parse hueText .avro = .ok hueDocument ∧
      lint hueDocument .defaults = .ok [lightIssue] := by
  have takes : Preset.camelCase.Takes "hue\n" := ⟨"hue", by decide, .inr rfl⟩
  have passes := Preset.camelCase.accepts_convention "hue\n"
  rw [decide_eq_true takes] at passes
  exact ⟨⟨_, Preset.camelCase.ofText_text, passes⟩, by decide, by decide, lint_hueText⟩

end SchemaReview.Lint
