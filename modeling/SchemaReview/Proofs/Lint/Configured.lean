import SchemaReview.Proofs.Lint.Check
import SchemaReview.Proofs.Lint.Overrides

/-!
# Rule sets that are configured

A rule set that comes out of a sequence of merges, those that fail being skipped, has options that
every rule can use, and so no rule refuses its options later on. A merge itself gives a rule set or
refuses the override, with two exceptions: a text of digits that spells no number, and a pattern
that fails for something else than its spelling.
-/
namespace SchemaReview.Lint

/-! ### Options that can be used -/

/-- The option that a check asks for is there, with a value that can be used. -/
def OptionCheck.Fits (check : OptionCheck) (options : Options) : Prop :=
  match check with
  | .pattern => ∃ text c, text ≠ "" ∧ Gives options text c
  | .limit => ∃ n : Int, Datum.textEntry? options "limit" = some (.int n) ∧ 1 ≤ n
  | .syntaxLevel => ∃ level, Datum.textEntry? options "expected" = some (.str level) ∧
      (level = "proto2" ∨ level = "proto3")

theorem OptionCheck.fits_of_run {check : OptionCheck} {options : Options}
    (h : check.run options = .ok ()) : check.Fits options := by
  cases check with
  | pattern =>
    obtain ⟨text, c, gives⟩ := exists_gives h
    refine ⟨text, c, ?_, gives⟩
    rintro rfl
    unfold OptionCheck.run at h
    rw [gives.entry] at h
    cases h
  | limit =>
    unfold OptionCheck.run at h
    dsimp only at h
    split at h
    · rename_i n given
      split at h
      · cases h
      · exact ⟨n, Datum.eq_some_of_getD_null given nofun, by omega⟩
    · cases h
  | syntaxLevel =>
    unfold OptionCheck.run at h
    dsimp only at h
    split at h
    · rename_i level given
      split at h
      · rename_i known
        exact ⟨level, Datum.eq_some_of_getD_null given nofun, known⟩
      · cases h
    · cases h

/-- The rule set that a sequence of merges leads to; those that fail are skipped. -/
def mergeAll (base : RuleSet) (steps : List Datum) : RuleSet :=
  steps.foldl (fun rules overrides =>
    match (mergeOverrides rules overrides).value with
    | .ok merged => merged
    | .error _ => rules) base

theorem isConfigured_mergeAll {base : RuleSet} (h : IsConfigured base) (steps : List Datum) :
    IsConfigured (mergeAll base steps) := by
  induction steps generalizing base with
  | nil => exact h
  | cons overrides rest ih =>
    refine ih ?_
    dsimp only
    cases merged : (mergeOverrides base overrides).value with
    | ok rules => exact .merged h merged
    | error e => exact h

/-- What a rule stops for is no matter of its configuration. -/
theorem ne_config_of_stops {id : RuleId} {v : Visit} {options : Options} {e : Failure}
    (h : id.Stops v options e) (fault : ConfigFault) : e ≠ .config fault := by
  have stray {documentation : Json} (h : IsStrayDoc documentation e) : e ≠ .config fault := by
    obtain ⟨-, -, rfl⟩ := h
    nofun
  have breaks {name : String} (h : BreaksAt options name e) : e ≠ .config fault := by
    obtain ⟨_, _, -, -, -, rfl⟩ := h
    nofun
  cases id with
  | docRequired => exact stray h.2
  | descriptionRequired => exact stray h
  | fieldDocRequired =>
    obtain ⟨f, -, h⟩ := h
    exact stray h
  | namingConvention | messageNaming | enumUppercase | fieldNaming =>
    obtain ⟨name, -, h⟩ := h
    exact breaks h
  | _ => exact h.elim

/-- The failure of a value for its type, such as that of a name that is no text. -/
def IsTypeFailure (e : Failure) : Prop := ∃ fault, e = .type fault

/-- Whatever overrides are merged into the default rules, one after another, every rule has options
that it can use, and no rule refuses them when a document is linted. -/
theorem mergeAll_isUsable (steps : List Datum) :
    (∀ (id : RuleId) (check : OptionCheck), check ∈ id.rule.optionCheck →
      check.run ((mergeAll .defaults steps).config id).options = .ok () ∧
        check.Fits ((mergeAll .defaults steps).config id).options) ∧
    (∀ (id : RuleId) (d : Document) (v : Visit) (fault : ConfigFault),
      id.check d v ((mergeAll .defaults steps).config id).options ≠ .error (.config fault)) ∧
    ∀ (d : Document) (fault : ConfigFault),
      lint d (mergeAll .defaults steps) ≠ .error (.config fault) := by
  have usable : (mergeAll .defaults steps).IsUsable :=
    (isConfigured_mergeAll .defaults steps).isUsable
  have typed : ∀ fault, IsTypeFailure (.type fault) := fun fault => ⟨fault, rfl⟩
  have apart (fault : ConfigFault) : ¬ IsTypeFailure (.config fault) := by
    rintro ⟨_, same⟩
    cases same
  refine ⟨fun id check checked => ?_, fun id d v fault => ?_, fun d fault => ?_⟩
  · have passed := usable id check checked
    exact ⟨passed, check.fits_of_run passed⟩
  · have ends := ends_check (usable id) d v (.inr typed)
    exact ends.ne_error (apart fault) fun stops => ne_config_of_stops stops fault rfl
  · have ends := ends_lint usable d (.inr typed)
    refine ends.ne_error (apart fault) ?_
    rintro ⟨v, -, rule, -, -, stops⟩
    exact ne_config_of_stops stops fault rfl

/-! ### Overrides that are neither merged nor refused -/

/-- A failure of a rule's configuration, as bad overrides are reported. -/
def IsRefusal (e : Failure) : Prop := ∃ fault, e = .config fault

/-- A text is no pattern, and for something else than its spelling. -/
def IsBrokenPattern (text : String) (e : Failure) : Prop :=
  ∃ error, Convention.ofText text = .error (.badPattern text error) ∧
    error.fault.isSpelling = false ∧ e = .pattern error.fault

/-- The value of an override breaks off its merge: it is a text of digits without a number, or the
pattern that it gives to its rule is broken. Of several options of one name the last one counts. -/
inductive BreaksOff (id : RuleId) : Datum → Failure → Prop
  | digits {s : String} (plain : booleanText? s = none) (main : id.rule.primaryOption ≠ none)
      (digits : Text.isAllDigits (Text.stripChars s.toList) = true)
      (numberless : Text.integerValue? s.toList = none) :
      BreaksOff id (.str s) (.value (.notAnInteger (Text.quoted s)))
  | pattern {s : String} {e : Failure} (plain : booleanText? s = none)
      (checked : id.rule.optionCheck = some .pattern)
      (other : Text.isAllDigits (Text.stripChars s.toList) = false) (broken : IsBrokenPattern s e) :
      BreaksOff id (.str s) e
  | options {parts others : Options} {s : String} {e : Failure}
      (checked : id.rule.optionCheck = some .pattern)
      (given : Datum.textEntry? parts "options" = some (.mapping others))
      (last : Datum.textEntry? others.reverse "pattern" = some (.str s))
      (broken : IsBrokenPattern s e) : BreaksOff id (.mapping parts) e

section

variable {id : RuleId} {current : RuleConfig} {options : Options}

theorem ofText_eq_error {text : String} {fault : OptionFault}
    (h : Convention.ofText text = .error fault) : ∃ error, fault = .badPattern text error := by
  unfold Convention.ofText at h
  dsimp only at h
  split at h
  · cases h
  · cases h
    exact ⟨_, rfl⟩

/-- Options that do not pass their check are refused, unless they hold a broken pattern. -/
theorem failure_of_run {check : OptionCheck} {fault : OptionFault}
    (h : check.run options = .error fault) (refusal : ConfigFault) :
    fault.failure refusal = .config refusal ∨ (check = .pattern ∧
      ∃ text, Datum.textEntry? options "pattern" = some (.str text) ∧
        IsBrokenPattern text (fault.failure refusal)) := by
  cases check with
  | pattern =>
    unfold OptionCheck.run at h
    dsimp only at h
    split at h
    · rename_i text given
      split at h
      · cases h
        exact .inl rfl
      · obtain failed | ⟨c, -, h⟩ := bind_eq_error.mp h
        · obtain ⟨error, rfl⟩ := ofText_eq_error failed
          unfold OptionFault.failure
          dsimp only
          split
          · exact .inl rfl
          · rename_i broken
            have entry := Datum.eq_some_of_getD_null given nofun
            exact .inr ⟨rfl, text, entry, error, failed, by simpa using broken, rfl⟩
        · cases h
    · cases h
      exact .inl rfl
  | limit | syntaxLevel =>
    unfold OptionCheck.run at h
    dsimp only at h
    split at h
    · split at h <;> cases h
      exact .inl rfl
    · cases h
      exact .inl rfl

/-- The check of options ends with a refusal, or with the failure of a broken pattern. -/
theorem ends_validated : Ends IsRefusal (fun e => id.rule.optionCheck = some .pattern ∧
    ∃ text, Datum.textEntry? current.options "pattern" = some (.str text) ∧
      IsBrokenPattern text e) (validated id current) := by
  unfold validated
  cases checked : id.rule.optionCheck with
  | none => exact .ok _ fun e cause => by cases cause.1
  | some check =>
    dsimp only
    cases run : check.run current.options with
    | ok =>
      refine .ok _ ?_
      rintro e ⟨same, text, entry, error, failed, -⟩
      cases same
      obtain ⟨other, c, gives⟩ := exists_gives run
      rw [gives.entry] at entry
      cases entry
      rw [gives.made] at failed
      cases failed
    | error fault =>
      dsimp only
      obtain refused | ⟨rfl, broken⟩ :=
        failure_of_run run (.override id.text (.option fault))
      · rw [refused]
        exact .refuse ⟨_, rfl⟩
      · exact .fault ⟨rfl, broken⟩

/-- The option that a bare value sets is the pattern of a rule that has one. -/
theorem primaryOption_of_pattern (h : id.rule.optionCheck = some .pattern) :
    id.rule.primaryOption = some "pattern" := by
  cases id <;> first | rfl | cases h

/-- A text of digits without a number is given. -/
def IsNumberless (value : Datum) (e : Failure) : Prop :=
  ∃ s, value = .str s ∧ Text.isAllDigits (Text.stripChars s.toList) = true ∧
    Text.integerValue? s.toList = none ∧ e = .value (.notAnInteger (Text.quoted s))

theorem ends_optionValue {value : Datum} :
    Ends IsRefusal (IsNumberless value) (optionValue value) := by
  cases value with
  | str s =>
    unfold optionValue
    dsimp only
    by_cases digits : Text.isAllDigits (Text.stripChars s.toList) = true
    · rw [if_pos digits, digitsOption]
      cases read : Text.integerValue? s.toList with
      | some n =>
        refine .ok _ ?_
        rintro e ⟨t, same, -, numberless, -⟩
        cases same
        rw [read] at numberless
        cases numberless
      | none => exact .fault ⟨s, rfl, digits, read, rfl⟩
    · rw [if_neg digits]
      refine .ok _ ?_
      rintro e ⟨t, same, other, -⟩
      cases same
      exact digits other
  | _ =>
    refine .ok _ ?_
    rintro e ⟨t, same, -⟩
    cases same

/-- The value of an option is a text if it is given as one that is not all digits. -/
theorem optionValue_eq_str {value : Datum} {text : String} :
    optionValue value = .ok (.str text) ↔
      value = .str text ∧ Text.isAllDigits (Text.stripChars text.toList) = false := by
  cases value with
  | str s =>
    unfold optionValue
    dsimp only
    by_cases digits : Text.isAllDigits (Text.stripChars s.toList) = true
    · rw [if_pos digits, digitsOption]
      refine iff_of_false ?_ ?_
      · split <;> nofun
      · rintro ⟨same, other⟩
        cases same
        rw [digits] at other
        cases other
    · rw [if_neg digits, Except.ok.injEq]
      refine (and_iff_left_of_imp ?_).symm
      rintro same
      cases same
      simpa using digits
  | _ => simp [optionValue]

/-- A broken pattern is given to a rule that has a pattern. -/
def IsBrokenFor (id : RuleId) (value : Datum) (e : Failure) : Prop :=
  id.rule.optionCheck = some .pattern ∧ ∃ text, value = .str text ∧
    Text.isAllDigits (Text.stripChars text.toList) = false ∧ IsBrokenPattern text e

/-- A rule with its main option set is refused, or the value is a broken pattern. -/
theorem ends_validated_setEntry {value given : Datum} {option : String}
    (main : id.rule.primaryOption = some option) (read : optionValue value = .ok given) :
    Ends IsRefusal (IsBrokenFor id value) (validated id
      ⟨true, current.severity, Datum.setEntry current.options (.str option) given⟩) := by
  refine ends_validated.congr fun e => and_congr_right fun checked => ?_
  obtain rfl : option = "pattern" :=
    Option.some.inj (main.symm.trans (primaryOption_of_pattern checked))
  have set : Datum.textEntry? (Datum.setEntry current.options (.str "pattern") given) "pattern" =
      some given := by
    rw [Datum.textEntry?_setEntry, if_pos (by simp [Datum.sameKey])]
  dsimp only
  rw [set]
  refine exists_congr fun text => ?_
  rw [Option.some.injEq, ← and_assoc]
  refine and_congr_left fun _ => ?_
  rw [← optionValue_eq_str, read, Except.ok.injEq]

/-- A bare value breaks off where it is a text of digits without a number or a broken pattern. -/
theorem ends_applyOption {value : Datum} : Ends IsRefusal
    (fun e => (id.rule.primaryOption ≠ none ∧ IsNumberless value e) ∨ IsBrokenFor id value e)
    (applyOption id current value) := by
  unfold applyOption
  cases main : id.rule.primaryOption with
  | none => exact .refuse ⟨_, rfl⟩
  | some option =>
    have checks (given : Datum) (read : optionValue value = .ok given) :
        Ends IsRefusal (IsBrokenFor id value) (validated id
          ⟨true, current.severity, Datum.setEntry current.options (.str option) given⟩) :=
      ends_validated_setEntry main read
    exact (ends_optionValue.bind checks).congr fun e => by simp

/-- A rule that can use its options has no broken pattern. -/
theorem not_isBrokenPattern_of_isUsable (usable : current.IsUsable id)
    (checked : id.rule.optionCheck = some .pattern) {text : String} {e : Failure}
    (entry : Datum.textEntry? current.options "pattern" = some (.str text)) :
    ¬ IsBrokenPattern text e := by
  rintro ⟨error, failed, -⟩
  obtain ⟨other, c, gives⟩ := exists_gives (usable .pattern checked)
  rw [gives.entry] at entry
  cases entry
  rw [gives.made] at failed
  cases failed

theorem isRefusal_of_mappedEnabled {before : Bool} {parts : Options} {e : Failure}
    (h : mappedEnabled id before parts = .error e) : IsRefusal e := by
  unfold mappedEnabled at h
  split at h
  · cases h
  · cases h
  · cases h
    exact ⟨_, rfl⟩

theorem isRefusal_of_mappedSeverity {before : Severity} {parts : Options} {e : Failure}
    (h : mappedSeverity id before parts = .error e) : IsRefusal e := by
  unfold mappedSeverity at h
  split at h
  · cases h
  · split at h
    · cases h
    · cases h
      exact ⟨_, rfl⟩

theorem isRefusal_of_mappedOptions {before parts : Options} {e : Failure}
    (h : mappedOptions id before parts = .error e) : IsRefusal e := by
  unfold mappedOptions at h
  dsimp only at h
  split at h
  · cases h
  · split at h
    · cases h
    · cases h
      exact ⟨_, rfl⟩

/-- The options that a mapping leaves are those before it with its own set. -/
theorem of_mappedOptions {before after parts : Options}
    (h : mappedOptions id before parts = .ok after) :
    (∃ others, Datum.textEntry? parts "options" = some (.mapping others) ∧
      after = Datum.updateEntries before others) ∨
    (after = before ∧ ∀ others, Datum.textEntry? parts "options" ≠ some (.mapping others)) := by
  unfold mappedOptions at h
  dsimp only at h
  split at h
  · rename_i absent
    cases h
    by_cases given : ∃ others, Datum.textEntry? parts "options" = some (.mapping others)
    · obtain ⟨others, given⟩ := given
      rw [given] at absent
      obtain rfl : others = [] := by simpa [Datum.isTruthy] using absent
      exact .inl ⟨[], given, rfl⟩
    · exact .inr ⟨rfl, fun others found => given ⟨others, found⟩⟩
  · split at h
    · rename_i others given
      cases h
      exact .inl ⟨others, Datum.eq_some_of_getD_null given nofun, rfl⟩
    · cases h

theorem ends_applyMapping {parts : Options} (usable : current.IsUsable id) :
    Ends IsRefusal (BreaksOff id (.mapping parts)) (applyMapping id current parts) := by
  unfold applyMapping
  cases unknownKeysShown parts with
  | some shown => exact .refuse ⟨_, rfl⟩
  | none =>
    refine .after (fun e => isRefusal_of_mappedEnabled) fun enabled _ => ?_
    refine .after (fun e => isRefusal_of_mappedSeverity) fun severity _ => ?_
    refine .after (fun e => isRefusal_of_mappedOptions) fun options set => ?_
    refine ends_validated.congr fun e => ?_
    dsimp only
    constructor
    · rintro ⟨checked, text, entry, broken⟩
      obtain ⟨others, given, rfl⟩ | ⟨rfl, -⟩ := of_mappedOptions set
      · rw [Datum.textEntry?_updateEntries] at entry
        cases last : Datum.textEntry? others.reverse "pattern" with
        | none =>
          rw [last, Option.none_or] at entry
          exact absurd broken (not_isBrokenPattern_of_isUsable usable checked entry)
        | some value =>
          rw [last, Option.some_or, Option.some.injEq] at entry
          exact .options checked given (entry ▸ last) broken
      · exact absurd broken (not_isBrokenPattern_of_isUsable usable checked entry)
    · intro h
      cases h with
      | options checked given last broken =>
        refine ⟨checked, _, ?_, broken⟩
        obtain ⟨others, given', rfl⟩ | ⟨-, absent⟩ := of_mappedOptions set
        · obtain rfl := Datum.mapping.inj (Option.some.inj (given.symm.trans given'))
          rw [Datum.textEntry?_updateEntries, last, Option.some_or]
        · exact absurd given (absent _)

/-- What a bare value breaks off for, if it is no text that spells a boolean. -/
theorem breaksOff_iff {value : Datum} {e : Failure}
    (plain : ∀ s, value = .str s → booleanText? s = none)
    (noMapping : ∀ parts, value ≠ .mapping parts) :
    (id.rule.primaryOption ≠ none ∧ IsNumberless value e) ∨ IsBrokenFor id value e ↔
      BreaksOff id value e := by
  constructor
  · rintro (⟨main, s, rfl, digits, numberless, rfl⟩ | ⟨checked, text, rfl, other, broken⟩)
    · exact .digits (plain s rfl) main digits numberless
    · exact .pattern (plain text rfl) checked other broken
  · intro h
    cases h with
    | digits _ main digits numberless => exact .inl ⟨main, _, rfl, digits, numberless, rfl⟩
    | pattern _ checked other broken => exact .inr ⟨checked, _, rfl, other, broken⟩
    | options => exact absurd rfl (noMapping _)

/-- An override of a rule applies, is refused or breaks off. -/
theorem ends_applyOverride {value : Datum} (usable : current.IsUsable id) :
    Ends IsRefusal (BreaksOff id value) (applyOverride id current value) := by
  cases value with
  | str s =>
    dsimp only [applyOverride]
    cases plain : booleanText? s with
    | some b =>
      refine .ok _ fun e h => ?_
      cases h with
      | digits plain' | pattern plain' =>
        rw [plain] at plain'
        cases plain'
    | none =>
      refine ends_applyOption.congr fun e => breaksOff_iff ?_ nofun
      rintro t same
      cases same
      exact plain
  | bool b => exact .ok _ fun e => nofun
  | mapping parts => exact ends_applyMapping usable
  | int | float => exact ends_applyOption.congr fun e => breaksOff_iff nofun nofun
  | _ => exact .refuse ⟨_, rfl⟩

/-- So does a sequence of them. -/
theorem ends_setRule {base : RuleSet} {set : List (RuleId × Datum)} (usable : base.IsUsable) :
    Ends IsRefusal (fun e => ∃ p ∈ set, BreaksOff p.1 p.2 e) (set.foldlM setRule base) := by
  induction set generalizing base with
  | nil => exact .ok _ (by simp)
  | cons p rest ih =>
    rw [List.foldlM_cons]
    have first : Ends IsRefusal (BreaksOff p.1 p.2) (setRule base p) :=
      (ends_applyOverride (usable p.1)).then_ok fun _ => rfl
    refine (first.bind fun next set => ih ?_).congr fun e => by simp
    obtain ⟨config, applied, set⟩ := bind_eq_ok.mp set
    cases set
    exact isUsable_set usable (isUsable_of_applyOverride (usable p.1) applied)

end

/-- What breaks off a merge is no refusal. -/
theorem BreaksOff.not_isRefusal {id : RuleId} {value : Datum} {e : Failure}
    (h : BreaksOff id value e) : ¬ IsRefusal e := by
  rintro ⟨fault, rfl⟩
  cases h with
  | pattern _ _ _ broken | options _ _ _ broken =>
    obtain ⟨error, -, -, same⟩ := broken
    cases same

/-- An override that gives a text for a rule. -/
def textOverride (rule text : String) : List (String × Json) := [(rule, .str text)]

theorem value_superscriptLimit :
    (mergeOverrides .defaults (Json.obj (textOverride "max_nesting_depth" "²")).toDatum).value =
      .error (.value (.notAnInteger (Text.quoted "²"))) := rfl

end SchemaReview.Lint
