import SchemaReview.Proofs.Datum
import SchemaReview.Proofs.Lint.RuleSet

/-!
# Laws of overrides

Merging overrides works rule by rule. An entry with an unknown identifier or the value null sets
nothing; each other entry replaces the configuration of its rule by one that depends on this
configuration only. So rules that are not set stay as they are, overrides of different rules can be
merged in any order, and a merge succeeds if each of its entries does. An override that was merged
changes nothing when it is merged again.
-/
namespace SchemaReview.Lint

/-! ### What overrides set -/

/-- The rule that an entry of an override sets, and the value that it has for it. -/
def setting? (entry : Datum × Datum) : Option (RuleId × Datum) :=
  match RuleId.ofText? entry.1.text, entry.2 with
  | none, _ => none
  | some _, .null => none
  | some id, value => some (id, value)

/-- The rules that overrides set, with their values, in the order in which they are set. -/
def settings (entries : Options) : List (RuleId × Datum) := entries.filterMap setting?

/-- Whether an entry of an override is about a rule and not null. -/
def Sets (entries : Options) (id : RuleId) : Prop :=
  ∃ e ∈ entries, RuleId.ofText? e.1.text = some id ∧ e.2 ≠ .null

/-- A rule set with one rule set. -/
def setRule (base : RuleSet) (setting : RuleId × Datum) : Except Failure RuleSet := do
  let config ← applyOverride setting.1 (base.config setting.1) setting.2
  return base.set setting.1 config

/-- The configuration that a rule gets from settings, if each rule is set at most once. -/
def RuleSet.overridden (base : RuleSet) (set : List (RuleId × Datum)) (id : RuleId) :
    Except Failure RuleConfig :=
  match set.lookup id with
  | none => .ok (base.config id)
  | some value => applyOverride id (base.config id) value

section

variable {base rules : RuleSet} {entries : Options} {e : Datum × Datum} {id : RuleId}
  {value : Datum} {set : List (RuleId × Datum)}

theorem setting?_eq_some : setting? e = some (id, value) ↔
    RuleId.ofText? e.1.text = some id ∧ e.2 = value ∧ value ≠ .null := by
  unfold setting?
  split
  · simp_all
  · simp_all
  · rename_i k v known notNull
    rw [known, Option.some.injEq, Option.some.injEq, Prod.mk.injEq]
    refine and_congr_right fun _ => ?_
    constructor
    · rintro rfl
      exact ⟨rfl, notNull⟩
    · exact And.left

theorem setting?_eq_none : setting? e = none ↔
    ∀ id, RuleId.ofText? e.1.text = some id → e.2 = .null := by
  unfold setting?
  split <;> simp_all

/-- Merging overrides is setting rules one after another. -/
theorem value_mergeEntries :
    (mergeEntries base entries).value = (settings entries).foldlM setRule base := by
  induction entries generalizing base with
  | nil => rfl
  | cons e rest ih =>
    obtain ⟨key, value⟩ := e
    rw [mergeEntries]
    split
    · rename_i unknown
      have passed : setting? (key, value) = none := setting?_eq_none.mpr (by simp [unknown])
      rw [settings, List.filterMap_cons_none passed]
      exact ih
    · rename_i id known
      split
      · have passed : setting? (key, .null) = none := setting?_eq_none.mpr fun _ _ => rfl
        rw [settings, List.filterMap_cons_none passed]
        exact ih
      · rename_i notNull
        have sets : setting? (key, value) = some (id, value) :=
          setting?_eq_some.mpr ⟨known, rfl, notNull⟩
        rw [settings, List.filterMap_cons_some sets, List.foldlM_cons, setRule]
        dsimp only
        cases applyOverride id (base.config id) value with
        | ok config => exact ih
        | error e => rfl

theorem value_mergeOverrides :
    (mergeOverrides base (.mapping entries)).value = (settings entries).foldlM setRule base := by
  rw [← value_mergeEntries]
  cases entries <;> rfl

theorem lookup_settings_eq_none (unset : ∀ v, (id, v) ∉ set) : set.lookup id = none := by
  rw [List.lookup_eq_none_iff]
  rintro ⟨key, v⟩ hkey
  have other : id ≠ key := fun same => unset v (same ▸ hkey)
  simpa using other

theorem overridden_of_lookup_none (h : set.lookup id = none) :
    base.overridden set id = .ok (base.config id) := by
  rw [RuleSet.overridden, h]

theorem overridden_of_lookup_some (h : set.lookup id = some value) :
    base.overridden set id = applyOverride id (base.config id) value := by
  rw [RuleSet.overridden, h]

/-- What a rule gets depends on its own configuration only. -/
theorem overridden_congr (same : base.config id = rules.config id) :
    base.overridden set id = rules.overridden set id := by
  rw [RuleSet.overridden, RuleSet.overridden, same]

theorem overridden_cons_self :
    base.overridden ((id, value) :: set) id = applyOverride id (base.config id) value :=
  overridden_of_lookup_some List.lookup_cons_self

theorem overridden_cons_of_ne {other : RuleId} (h : other ≠ id) :
    base.overridden ((id, value) :: set) other = base.overridden set other := by
  rw [RuleSet.overridden, List.lookup_cons, beq_eq_false_iff_ne.mpr h]
  rfl

/-- Merging is pointwise: a rule set comes out whose configurations are those that each rule gets
by itself. -/
theorem foldlM_setRule (once : (set.map Prod.fst).Nodup) (config : RuleId → RuleConfig) :
    (∃ rules, set.foldlM setRule base = .ok rules ∧ ∀ id, rules.config id = config id) ↔
      ∀ id, base.overridden set id = .ok (config id) := by
  induction set generalizing base with
  | nil => simp [RuleSet.overridden, pure, Except.pure]
  | cons first rest ih =>
    obtain ⟨key, value⟩ := first
    obtain ⟨new, once⟩ := List.nodup_cons.mp once
    have alone : rest.lookup key = none :=
      lookup_settings_eq_none fun v hv => new (List.mem_map.mpr ⟨_, hv, rfl⟩)
    -- The rule that is set first gets no other value, and the others do not see what it got.
    have atKey (got : RuleConfig) : (base.set key got).overridden rest key = .ok got := by
      rw [overridden_of_lookup_none alone, config_set, if_pos rfl]
    have atOther (got : RuleConfig) {other : RuleId} (apart : other ≠ key) :
        (base.set key got).overridden rest other =
          base.overridden ((key, value) :: rest) other := by
      rw [overridden_cons_of_ne apart]
      exact overridden_congr (by rw [config_set, if_neg apart])
    rw [List.foldlM_cons]
    constructor
    · rintro ⟨rules, merged, configs⟩
      obtain ⟨next, set, merged⟩ := bind_eq_ok.mp merged
      obtain ⟨got, applied, set⟩ := bind_eq_ok.mp set
      cases set
      have pointwise := (ih once).mp ⟨rules, merged, configs⟩
      intro other
      by_cases same : other = key
      · subst same
        rw [overridden_cons_self, applied, ← atKey got, pointwise]
      · rw [← atOther got same, pointwise]
    · intro pointwise
      have applied := pointwise key
      rw [overridden_cons_self] at applied
      have others : ∀ other, (base.set key (config key)).overridden rest other =
          .ok (config other) := by
        intro other
        by_cases same : other = key
        · subst same
          exact atKey _
        · rw [atOther _ same, pointwise]
      obtain ⟨rules, merged, configs⟩ := (ih once).mpr others
      refine ⟨rules, bind_eq_ok.mpr ⟨base.set key (config key), ?_, merged⟩, configs⟩
      exact bind_eq_ok.mpr ⟨config key, applied, rfl⟩

end

/-! ### Overrides that are merged again -/

section

variable {id : RuleId} {config current : RuleConfig} {entries : Options} {value : Datum}

/-- The options in an override have keys that a mapping can have. -/
def HasKeyedOptions (value : Datum) : Prop :=
  ∀ parts others, value = .mapping parts →
    Datum.textEntry? parts "options" = some (.mapping others) → ∀ e ∈ others, e.1.sameKey e.1 = true

theorem eq_of_validated (h : validated id current = .ok config) : config = current := by
  unfold validated at h
  split at h
  · cases h
    rfl
  · split at h
    · cases h
      rfl
    · cases h

theorem mappedEnabled_again {before after : Bool}
    (h : mappedEnabled id before entries = .ok after) :
    mappedEnabled id after entries = .ok after := by
  unfold mappedEnabled at h ⊢
  split at h
  · rfl
  · exact h
  · cases h

theorem mappedSeverity_again {before after : Severity}
    (h : mappedSeverity id before entries = .ok after) :
    mappedSeverity id after entries = .ok after := by
  unfold mappedSeverity at h ⊢
  split at h
  · rfl
  · exact h

theorem mappedOptions_again {before after : Options} (keyed : HasKeyedOptions (.mapping entries))
    (h : mappedOptions id before entries = .ok after) :
    mappedOptions id after entries = .ok after := by
  unfold mappedOptions at h ⊢
  dsimp only at h ⊢
  split at h
  · rename_i absent
    rw [if_pos absent]
  · rename_i present
    rw [if_neg present]
    split at h
    · rename_i others given
      cases h
      have found := Datum.eq_some_of_getD_null given nofun
      exact congrArg Except.ok (Datum.updateEntries_updateEntries (keyed _ _ rfl found))
    · cases h

theorem applyMapping_again (keyed : HasKeyedOptions (.mapping entries))
    (h : applyMapping id current entries = .ok config) :
    applyMapping id config entries = .ok config := by
  unfold applyMapping at h ⊢
  split at h
  · cases h
  · obtain ⟨enabled, on, h⟩ := bind_eq_ok.mp h
    obtain ⟨severity, severe, h⟩ := bind_eq_ok.mp h
    obtain ⟨options, set, h⟩ := bind_eq_ok.mp h
    obtain rfl := eq_of_validated h
    exact bind_eq_ok.mpr ⟨enabled, mappedEnabled_again on, bind_eq_ok.mpr ⟨severity,
      mappedSeverity_again severe, bind_eq_ok.mpr ⟨options, mappedOptions_again keyed set, h⟩⟩⟩

theorem applyOption_again (h : applyOption id current value = .ok config) :
    applyOption id config value = .ok config := by
  unfold applyOption at h ⊢
  split at h
  · cases h
  · obtain ⟨given, read, h⟩ := bind_eq_ok.mp h
    obtain rfl := eq_of_validated h
    refine bind_eq_ok.mpr ⟨given, read, ?_⟩
    dsimp only
    rwa [Datum.setEntry_setEntry (by simp [Datum.sameKey])]

/-- An override that was applied gives the same configuration when it is applied again. -/
theorem applyOverride_again (keyed : HasKeyedOptions value)
    (h : applyOverride id current value = .ok config) :
    applyOverride id config value = .ok config := by
  cases value with
  | str s =>
    dsimp only [applyOverride] at h ⊢
    split at h
    · cases h
      rfl
    · exact applyOption_again h
  | bool b =>
    cases h
    rfl
  | mapping entries => exact applyMapping_again keyed h
  | int | float => exact applyOption_again h
  | _ => cases h

end

/-! ### The laws -/

/-- Overrides as a mapping holds them: since its keys are distinct, no rule is set twice, and
neither is an option of a rule. -/
structure AreOverrides (entries : Options) : Prop where
  once : ((settings entries).map Prod.fst).Nodup
  keyed : ∀ setting ∈ settings entries, HasKeyedOptions setting.2

/-- Merging overrides into a rule set gives another one. -/
def Merges (base : RuleSet) (entries : Options) (rules : RuleSet) : Prop :=
  (mergeOverrides base (.mapping entries)).value = .ok rules

section

variable {base rules first second : RuleSet} {entries others : Options} {id : RuleId}

theorem exists_merges_iff (once : ((settings entries).map Prod.fst).Nodup)
    (config : RuleId → RuleConfig) :
    (∃ rules, Merges base entries rules ∧ ∀ id, rules.config id = config id) ↔
      ∀ id, base.overridden (settings entries) id = .ok (config id) := by
  simp only [Merges, value_mergeOverrides]
  exact foldlM_setRule once config

theorem Merges.overridden (once : ((settings entries).map Prod.fst).Nodup)
    (h : Merges base entries rules) (id : RuleId) :
    base.overridden (settings entries) id = .ok (rules.config id) :=
  (exists_merges_iff once rules.config).mp ⟨rules, h, fun _ => rfl⟩ id

theorem sets_iff : Sets entries id ↔ id ∈ (settings entries).map Prod.fst := by
  rw [List.mem_map]
  constructor
  · rintro ⟨e, he, named, notNull⟩
    have sets : setting? e = some (id, e.2) := setting?_eq_some.mpr ⟨named, rfl, notNull⟩
    exact ⟨_, List.mem_filterMap.mpr ⟨e, he, sets⟩, rfl⟩
  · rintro ⟨p, hp, rfl⟩
    obtain ⟨e, he, sets⟩ := List.mem_filterMap.mp hp
    obtain ⟨named, same, notNull⟩ := setting?_eq_some.mp sets
    exact ⟨e, he, named, same ▸ notNull⟩

theorem lookup_settings_of_unset (unset : ¬ Sets entries id) :
    (settings entries).lookup id = none :=
  lookup_settings_eq_none fun _ hv => unset (sets_iff.mpr (List.mem_map.mpr ⟨_, hv, rfl⟩))

/-- Rules that overrides do not set keep their configuration. -/
theorem Merges.config_eq (fit : AreOverrides entries) (h : Merges base entries rules)
    (unset : ¬ Sets entries id) : rules.config id = base.config id := by
  have got := h.overridden fit.once id
  rw [overridden_of_lookup_none (lookup_settings_of_unset unset)] at got
  exact (Except.ok.inj got).symm

/-- Overrides that were merged give the same configurations when they are merged again. -/
theorem Merges.again (fit : AreOverrides entries) (h : Merges base entries rules) :
    ∃ again, Merges rules entries again ∧ ∀ id, again.config id = rules.config id := by
  refine (exists_merges_iff fit.once rules.config).mpr fun id => ?_
  have got := h.overridden fit.once id
  cases set : (settings entries).lookup id with
  | none => exact overridden_of_lookup_none set
  | some value =>
    rw [overridden_of_lookup_some set] at got ⊢
    exact applyOverride_again (fit.keyed _ (mem_of_lookup set)) got

/-- Overrides that set different rules give the same configurations in either order. -/
theorem Merges.swap (fit : AreOverrides entries) (fit' : AreOverrides others)
    (apart : ∀ id, Sets entries id → ¬ Sets others id) (h : Merges base entries first)
    (h' : Merges base others second) :
    ∃ both both', Merges first others both ∧ Merges second entries both' ∧
      ∀ id, both.config id = both'.config id := by
  classical
  obtain ⟨config, atSet, atUnset⟩ : ∃ config : RuleId → RuleConfig,
      (∀ id, Sets entries id → config id = first.config id) ∧
        ∀ id, ¬ Sets entries id → config id = second.config id :=
    ⟨fun id => if Sets entries id then first.config id else second.config id,
      fun _ set => if_pos set, fun _ unset => if_neg unset⟩
  have behindFirst : ∀ id, first.overridden (settings others) id = .ok (config id) := by
    intro id
    by_cases set : Sets entries id
    · rw [overridden_of_lookup_none (lookup_settings_of_unset (apart id set)), atSet id set]
    · rw [overridden_congr (h.config_eq fit set), h'.overridden fit'.once, atUnset id set]
  have behindSecond : ∀ id, second.overridden (settings entries) id = .ok (config id) := by
    intro id
    by_cases set : Sets entries id
    · rw [overridden_congr (h'.config_eq fit' (apart id set)), h.overridden fit.once,
        atSet id set]
    · rw [overridden_of_lookup_none (lookup_settings_of_unset set), atUnset id set]
  obtain ⟨both, merged, configs⟩ := (exists_merges_iff fit'.once config).mpr behindFirst
  obtain ⟨both', merged', configs'⟩ := (exists_merges_iff fit.once config).mpr behindSecond
  exact ⟨both, both', merged, merged', fun id => (configs id).trans (configs' id).symm⟩

/-- Overrides can be merged if the value of each rule that they set applies to it. -/
theorem exists_merges_iff_settings (once : ((settings entries).map Prod.fst).Nodup) :
    (∃ rules, Merges base entries rules) ↔
      ∀ p ∈ settings entries, ∃ config, applyOverride p.1 (base.config p.1) p.2 = .ok config := by
  constructor
  · rintro ⟨rules, h⟩ ⟨id, value⟩ hp
    have got := h.overridden once id
    rw [overridden_of_lookup_some ((lookup_eq_some_iff_mem once).mpr hp)] at got
    exact ⟨_, got⟩
  · intro each
    have gets : ∀ id, ∃ config, base.overridden (settings entries) id = .ok config := by
      intro id
      cases set : (settings entries).lookup id with
      | none => exact ⟨_, overridden_of_lookup_none set⟩
      | some value =>
        rw [overridden_of_lookup_some set]
        exact each _ (mem_of_lookup set)
    choose config gets using gets
    obtain ⟨rules, merged, -⟩ := (exists_merges_iff once config).mpr gets
    exact ⟨rules, merged⟩

theorem settings_singleton {e : Datum × Datum} : settings [e] = (setting? e).toList := by
  rw [settings]
  cases sets : setting? e with
  | none => rw [List.filterMap_cons_none sets]; rfl
  | some p => rw [List.filterMap_cons_some sets]; rfl

/-- Overrides can be merged if each of their entries can. -/
theorem exists_merges_iff_forall (once : ((settings entries).map Prod.fst).Nodup) :
    (∃ rules, Merges base entries rules) ↔ ∀ e ∈ entries, ∃ rules, Merges base [e] rules := by
  have alone (e : Datum × Datum) : (∃ rules, Merges base [e] rules) ↔ ∀ p, setting? e = some p →
      ∃ config, applyOverride p.1 (base.config p.1) p.2 = .ok config := by
    rw [exists_merges_iff_settings, settings_singleton]
    · simp only [Option.mem_toList]
    · rw [settings_singleton]
      cases setting? e <;> simp
  rw [exists_merges_iff_settings once]
  simp only [alone, settings, List.mem_filterMap]
  constructor
  · exact fun each e he p sets => each p ⟨e, he, sets⟩
  · rintro each p ⟨e, he, sets⟩
    exact each e he p sets

/-- Entries with identifiers that the catalog does not know change nothing. -/
theorem value_mergeOverrides_known :
    (mergeOverrides base (.mapping
      (entries.filter fun e => (RuleId.ofText? e.1.text).isSome))).value =
        (mergeOverrides base (.mapping entries)).value := by
  have kept : settings (entries.filter fun e => (RuleId.ofText? e.1.text).isSome) =
      settings entries := by
    rw [settings, List.filterMap_filter, settings]
    refine List.filterMap_congr fun e _ => ?_
    cases known : RuleId.ofText? e.1.text with
    | none => simp [setting?, known]
    | some id => rfl
  rw [value_mergeOverrides, value_mergeOverrides, kept]

end

/-- Merging overrides is pointwise. Rules that they do not set keep their configuration, unknown
rules count for nothing, a second time changes nothing, overrides of different rules can be merged
in any order, and overrides can be merged if each of their entries can. -/
theorem mergeOverrides_pointwise (base : RuleSet) {entries : Options} (fit : AreOverrides entries) :
    (∀ rules, Merges base entries rules →
      ∀ id, ¬ Sets entries id → rules.config id = base.config id) ∧
    (mergeOverrides base (.mapping
      (entries.filter fun e => (RuleId.ofText? e.1.text).isSome))).value =
        (mergeOverrides base (.mapping entries)).value ∧
    (∀ rules, Merges base entries rules →
      ∃ again, Merges rules entries again ∧ ∀ id, again.config id = rules.config id) ∧
    (∀ others first second, AreOverrides others → (∀ id, Sets entries id → ¬ Sets others id) →
      Merges base entries first → Merges base others second →
      ∃ both both', Merges first others both ∧ Merges second entries both' ∧
        ∀ id, both.config id = both'.config id) ∧
    ((∃ rules, Merges base entries rules) ↔ ∀ e ∈ entries, ∃ rules, Merges base [e] rules) :=
  ⟨fun _ merged _ unset => merged.config_eq fit unset, value_mergeOverrides_known,
    fun _ merged => merged.again fit,
    fun _ _ _ fit' apart merged merged' => merged.swap fit fit' apart merged',
    exists_merges_iff_forall fit.once⟩

/-! ### Overrides that are read from a JSON object -/

theorem membersToDatum_eq (members : List (String × Json)) :
    Json.membersToDatum members = members.map fun m => (.str m.1, m.2.toDatum) := by
  induction members with
  | nil => rfl
  | cons m rest ih => rw [Json.membersToDatum, ih, List.map_cons]

theorem exists_obj_of_toDatum {v : Json} {entries : Options} (h : v.toDatum = .mapping entries) :
    ∃ members, v = .obj members ∧ entries = Json.membersToDatum members := by
  cases v with
  | obj members => exact ⟨members, rfl, (Datum.mapping.inj h).symm⟩
  | _ => cases h

theorem hasKeyedOptions_toDatum (v : Json) : HasKeyedOptions v.toDatum := by
  intro parts others made found e he
  obtain ⟨members, rfl, rfl⟩ := exists_obj_of_toDatum made
  obtain ⟨entry, there, options⟩ := Option.map_eq_some_iff.mp found
  have listed := List.mem_of_find?_eq_some there
  rw [membersToDatum_eq] at listed
  obtain ⟨m, -, rfl⟩ := List.mem_map.mp listed
  obtain ⟨inner, -, rfl⟩ := exists_obj_of_toDatum options
  rw [membersToDatum_eq] at he
  obtain ⟨n, -, rfl⟩ := List.mem_map.mp he
  simp [Datum.sameKey]

theorem text_of_ofText? {s : String} {id : RuleId} (h : RuleId.ofText? s = some id) :
    id.text = s := by
  simpa using List.find?_some h

theorem mem_settings_members {members : List (String × Json)} {id : RuleId} {value : Datum} :
    (id, value) ∈ settings (Json.membersToDatum members) ↔
      ∃ m ∈ members, RuleId.ofText? m.1 = some id ∧ m.2.toDatum = value ∧ value ≠ .null := by
  rw [membersToDatum_eq, settings, List.mem_filterMap]
  simp only [List.mem_map, exists_exists_and_eq_and, setting?_eq_some]
  rfl

/-- The members of a JSON object have distinct names, so no rule is set twice. -/
theorem areOverrides_of_members {members : List (String × Json)}
    (distinct : (members.map Prod.fst).Nodup) : AreOverrides (Json.membersToDatum members) := by
  constructor
  · induction members with
    | nil => exact List.nodup_nil
    | cons m rest ih =>
      obtain ⟨new, distinct⟩ := List.nodup_cons.mp distinct
      rw [Json.membersToDatum, settings]
      cases sets : setting? (.str m.1, m.2.toDatum) with
      | none =>
        rw [List.filterMap_cons_none sets]
        exact ih distinct
      | some p =>
        rw [List.filterMap_cons_some sets, List.map_cons, List.nodup_cons]
        refine ⟨fun twice => ?_, ih distinct⟩
        obtain ⟨q, hq, same⟩ := List.mem_map.mp twice
        obtain ⟨n, hn, named', -⟩ := mem_settings_members.mp hq
        have named : RuleId.ofText? m.1 = some q.1 := same ▸ (setting?_eq_some.mp sets).1
        have equal : n.1 = m.1 := (text_of_ofText? named').symm.trans (text_of_ofText? named)
        exact new (equal ▸ List.mem_map_of_mem hn)
  · rintro ⟨id, value⟩ hp
    obtain ⟨m, -, -, rfl, -⟩ := mem_settings_members.mp hp
    exact hasKeyedOptions_toDatum m.2

/-- A limit with a severity, beside a rule that is left alone and one that is not known. -/
def limitOverrides : List (String × Json) :=
  [("max_nesting_depth", .obj [("severity", .str "error"), ("options", .obj [("limit", .int 3)])]),
    ("doc_required", .null), ("no_such_rule", .int 1)]

/-- A rule that is turned off. -/
def docOverrides : List (String × Json) := [("doc_required", .bool false)]

theorem mergeOverrides_pointwise_limit :
    ∃ first second both both' again,
      Merges .defaults (Json.membersToDatum limitOverrides) first ∧
      Merges .defaults (Json.membersToDatum docOverrides) second ∧
      Merges first (Json.membersToDatum docOverrides) both ∧
      Merges second (Json.membersToDatum limitOverrides) both' ∧
      Merges first (Json.membersToDatum limitOverrides) again ∧
      (∀ id, both.config id = both'.config id) ∧ (∀ id, again.config id = first.config id) ∧
      first.config .docRequired = RuleId.docRequired.defaultConfig := by
  have fit : AreOverrides (Json.membersToDatum limitOverrides) :=
    areOverrides_of_members (by decide)
  have fit' : AreOverrides (Json.membersToDatum docOverrides) :=
    areOverrides_of_members (by decide)
  obtain ⟨first, merged⟩ : ∃ rules, Merges .defaults (Json.membersToDatum limitOverrides) rules :=
    ⟨_, rfl⟩
  obtain ⟨second, merged'⟩ : ∃ rules, Merges .defaults (Json.membersToDatum docOverrides) rules :=
    ⟨_, rfl⟩
  have set : (settings (Json.membersToDatum limitOverrides)).map Prod.fst =
      [.maxNestingDepth] := rfl
  have set' : (settings (Json.membersToDatum docOverrides)).map Prod.fst = [.docRequired] := rfl
  have unset : ¬ Sets (Json.membersToDatum limitOverrides) .docRequired := by
    rw [sets_iff, set]
    decide
  have apart : ∀ id, Sets (Json.membersToDatum limitOverrides) id →
      ¬ Sets (Json.membersToDatum docOverrides) id := by
    simp only [sets_iff, set, set', List.mem_singleton]
    rintro id rfl
    decide
  obtain ⟨stays, -, twice, swapped, -⟩ := mergeOverrides_pointwise .defaults fit
  obtain ⟨again, mergedAgain, same⟩ := twice first merged
  obtain ⟨both, both', one, other, equal⟩ := swapped _ _ _ fit' apart merged merged'
  exact ⟨first, second, both, both', again, merged, merged', one, other, mergedAgain, equal, same,
    stays first merged _ unset⟩

end SchemaReview.Lint
