import SchemaReview.Lint.RuleSet
import SchemaReview.Proofs.Batch

/-!
# Rule sets that can be used

Options are checked when a rule set is made, so that a rule can take them as they are when it runs.
The default options pass the checks, and every override that is accepted leaves options that do.
-/
namespace SchemaReview.Lint

/-- The options of a configuration are such that the rule can use them. -/
def RuleConfig.IsUsable (id : RuleId) (config : RuleConfig) : Prop :=
  ∀ check, id.rule.optionCheck = some check → check.run config.options = .ok ()

/-- Every rule can use the options that a rule set has for it. -/
def RuleSet.IsUsable (rules : RuleSet) : Prop := ∀ id, (rules.config id).IsUsable id

/-- The rule sets that are made of the default one by overrides that are accepted. -/
inductive IsConfigured : RuleSet → Prop
  | defaults : IsConfigured .defaults
  | merged {base rules : RuleSet} {overrides : Datum} (from_ : IsConfigured base)
      (accepted : (mergeOverrides base overrides).value = .ok rules) : IsConfigured rules

theorem isUsable_defaultConfig (id : RuleId) : id.defaultConfig.IsUsable id := by
  intro check checked
  have passed : (check.run id.rule.defaultOptions).isOk = true := by
    cases id <;> cases checked <;> decide +kernel
  unfold RuleId.defaultConfig
  dsimp only
  cases run : check.run id.rule.defaultOptions with
  | ok => rfl
  | error fault =>
    rw [run] at passed
    cases passed

theorem lookup_setConfig (configs : List (RuleId × RuleConfig)) (id other : RuleId)
    (config : RuleConfig) : (RuleSet.setConfig configs id config).lookup other =
      if other = id then some config else configs.lookup other := by
  induction configs with
  | nil =>
    rw [RuleSet.setConfig, List.lookup_cons]
    by_cases same : other = id
    · simp [same]
    · simp [same, beq_eq_false_iff_ne.mpr same]
  | cons first rest ih =>
    obtain ⟨key, old⟩ := first
    rw [RuleSet.setConfig]
    by_cases here : key = id
    · subst here
      by_cases same : other = key
      · simp [same]
      · simp [same, beq_eq_false_iff_ne.mpr same, List.lookup_cons]
    · rw [if_neg here, List.lookup_cons, List.lookup_cons, ih]
      by_cases same : other = id
      · subst same
        simp [beq_eq_false_iff_ne.mpr (Ne.symm here)]
      · simp [same]

theorem config_set (rules : RuleSet) (id other : RuleId) (config : RuleConfig) :
    (rules.set id config).config other = if other = id then config else rules.config other := by
  unfold RuleSet.config RuleSet.set
  dsimp only
  rw [lookup_setConfig]
  split <;> rfl

section

variable {id : RuleId} {config current : RuleConfig} {base rules : RuleSet}

theorem isUsable_of_validated (h : validated id current = .ok config) : config.IsUsable id := by
  unfold validated at h
  split at h
  · rename_i unchecked
    intro check checked
    rw [unchecked] at checked
    cases checked
  · rename_i check checked
    split at h
    · rename_i passed
      cases h
      intro other same
      rw [checked] at same
      cases same
      exact passed
    · cases h

theorem isUsable_of_applyMapping {entries : Options}
    (h : applyMapping id current entries = .ok config) : config.IsUsable id := by
  unfold applyMapping at h
  split at h
  · cases h
  · obtain ⟨enabled, -, h⟩ := bind_eq_ok.mp h
    obtain ⟨severity, -, h⟩ := bind_eq_ok.mp h
    obtain ⟨options, -, h⟩ := bind_eq_ok.mp h
    exact isUsable_of_validated h

theorem isUsable_of_applyOption {value : Datum} (h : applyOption id current value = .ok config) :
    config.IsUsable id := by
  unfold applyOption at h
  split at h
  · cases h
  · obtain ⟨set, -, h⟩ := bind_eq_ok.mp h
    exact isUsable_of_validated h

theorem isUsable_of_applyOverride {value : Datum} (usable : current.IsUsable id)
    (h : applyOverride id current value = .ok config) : config.IsUsable id := by
  cases value with
  | str s =>
    dsimp only [applyOverride] at h
    split at h
    · cases h
      exact usable
    · exact isUsable_of_applyOption h
  | bool b =>
    cases h
    exact usable
  | mapping entries => exact isUsable_of_applyMapping h
  | int | float => exact isUsable_of_applyOption h
  | _ => cases h

theorem isUsable_set (h : base.IsUsable) (usable : config.IsUsable id) :
    (base.set id config).IsUsable := by
  intro other
  rw [config_set]
  split
  · rename_i same
    exact same ▸ usable
  · exact h other

/-- Each override leaves the options usable. -/
theorem isUsable_of_mergeEntries {entries : Options} (h : base.IsUsable)
    (merged : (mergeEntries base entries).value = .ok rules) : rules.IsUsable := by
  induction entries generalizing base with
  | nil =>
    cases merged
    exact h
  | cons entry rest ih =>
    obtain ⟨key, value⟩ := entry
    rw [mergeEntries] at merged
    split at merged
    · exact ih h merged
    · split at merged
      · exact ih h merged
      · split at merged
        · rename_i applied
          exact ih (isUsable_set h (isUsable_of_applyOverride (h _) applied)) merged
        · cases merged

end

/-- Every rule can use the options of a rule set that was configured. -/
theorem IsConfigured.isUsable {rules : RuleSet} (h : IsConfigured rules) : rules.IsUsable := by
  induction h with
  | defaults =>
    intro id
    have same : RuleSet.defaults.config id = id.defaultConfig := by cases id <;> rfl
    rw [same]
    exact isUsable_defaultConfig id
  | merged _ accepted ih =>
    unfold mergeOverrides at accepted
    split at accepted
    · cases accepted
      exact ih
    · split at accepted
      · exact isUsable_of_mergeEntries ih accepted
      · cases accepted

end SchemaReview.Lint
