import SchemaReview.Proofs.Lint.Configured
import SchemaReview.Proofs.Schema.Places

/-!
# Which rule reports what

What a rule reports at a visit depends on its own configuration only, so two runs over a document
report the same under a rule that both configure alike. The issues of a run are in the order of the
visited places, at one place in the order of the rules, and under one rule in the order of its own
findings.
-/
namespace SchemaReview.Lint

variable {d : Document} {rules : RuleSet} {issues : List Issue}

/-- What a rule reports at a visit, as far as it comes to an end. -/
def ownIssues (d : Document) (id : RuleId) (config : RuleConfig) (v : Visit) : List Issue :=
  if id.rule.format = d.format ∧ config.enabled = true ∧ id.rule.applies v = true then
    match id.check d v config.options with
    | .ok findings => findings.map (issueOf id config v)
    | .error _ => []
  else []

/-- What all rules of the document's language report at a visit. -/
def issuesAt (d : Document) (rules : RuleSet) (v : Visit) : List Issue :=
  (RuleId.ofFormat d.format).flatMap fun id => ownIssues d id (rules.config id) v

/-- The issues of a rule among others. -/
def issuesOf (id : RuleId) (issues : List Issue) : List Issue :=
  issues.filter fun issue => issue.ruleId == id.text

/-! ### The issues of a run -/

/-- A walk that succeeds with lists gives the lists of its elements, one after another. -/
theorem flatten_of_mapM {ε α β : Type} {f : α → Except ε (List β)} {g : α → List β} {xs : List α}
    {ys : List (List β)} (h : xs.mapM f = .ok ys) (made : ∀ x ∈ xs, ∀ y, f x = .ok y → y = g x) :
    ys.flatten = xs.flatMap g := by
  obtain ⟨result, ran, rfl⟩ := exists_map_of_mapM_eq_ok h
  rw [← List.flatMap_def]
  exact List.flatMap_congr fun x hx => made x hx _ (ran x hx)

/-- Elements that give nothing can be left out before. -/
theorem flatMap_filter {α β : Type} {p : α → Bool} {f : α → List β} {xs : List α}
    (h : ∀ x ∈ xs, p x = false → f x = []) : (xs.filter p).flatMap f = xs.flatMap f := by
  induction xs with
  | nil => rfl
  | cons x rest ih =>
    rw [List.forall_mem_cons] at h
    cases kept : p x with
    | true => rw [List.filter_cons_of_pos kept, List.flatMap_cons, List.flatMap_cons, ih h.2]
    | false =>
      rw [List.filter_cons_of_neg (by simp [kept]), List.flatMap_cons, h.1 kept, List.nil_append,
        ih h.2]

theorem eq_of_ruleIssues {v : Visit} {rule : RuleId × RuleConfig}
    (language : rule.1.rule.format = d.format) (enabled : rule.2.enabled = true)
    (h : ruleIssues d v rule = .ok issues) : issues = ownIssues d rule.1 rule.2 v := by
  unfold ruleIssues at h
  unfold ownIssues
  split at h
  · rename_i applies
    obtain ⟨findings, checked, h⟩ := bind_eq_ok.mp h
    obtain rfl := pure_eq_ok.mp h
    rw [if_pos ⟨language, enabled, applies⟩, checked]
  · rename_i passes
    obtain rfl := pure_eq_ok.mp h
    rw [if_neg fun all => passes all.2.2]

theorem eq_of_visitIssues {v : Visit}
    (h : visitIssues d v (activeRules rules d.format) = .ok issues) :
    issues = issuesAt d rules v := by
  obtain ⟨lists, walked, h⟩ := bind_eq_ok.mp h
  obtain rfl := pure_eq_ok.mp h
  have own := flatten_of_mapM (g := fun rule => ownIssues d rule.1 rule.2 v) walked
    fun rule hr reported ran =>
      have active := mem_activeRules.mp hr
      eq_of_ruleIssues active.1 active.2.2 ran
  rw [own, activeRules, flatMap_filter, List.flatMap_map]
  · rfl
  · rintro rule - disabled
    unfold ownIssues
    rw [if_neg fun all => by simp [disabled] at all]

/-- The issues of a document are those of the visits of its nodes. -/
theorem eq_of_lint (ran : lint d rules = .ok issues) :
    issues = d.root.walk.flatMap (issuesAt d rules) := by
  obtain ⟨lists, walked, h⟩ := bind_eq_ok.mp ran
  obtain rfl := pure_eq_ok.mp h
  exact flatten_of_mapM walked fun v _ reported ran => eq_of_visitIssues ran

/-! ### The issues of one rule -/

theorem ofText?_text (id : RuleId) : RuleId.ofText? id.text = some id := by
  cases id <;> rfl

theorem exists_of_mem_ownIssues {id : RuleId} {config : RuleConfig} {v : Visit} {issue : Issue}
    (h : issue ∈ ownIssues d id config v) :
    ∃ findings, id.check d v config.options = .ok findings ∧
      ∃ finding ∈ findings, issue = issueOf id config v finding := by
  unfold ownIssues at h
  split at h
  · split at h
    · rename_i findings checked
      obtain ⟨finding, found, rfl⟩ := List.mem_map.mp h
      exact ⟨findings, checked, finding, found, rfl⟩
    · cases h
  · cases h

theorem ruleId_of_mem_ownIssues {id : RuleId} {config : RuleConfig} {v : Visit} {issue : Issue}
    (h : issue ∈ ownIssues d id config v) : issue.ruleId = id.text := by
  obtain ⟨_, -, finding, -, rfl⟩ := exists_of_mem_ownIssues h
  rfl

theorem issuesOf_ownIssues (id other : RuleId) (config : RuleConfig) (v : Visit) :
    issuesOf id (ownIssues d other config v) =
      if other = id then ownIssues d other config v else [] := by
  unfold issuesOf
  by_cases same : other = id
  · rw [if_pos same, List.filter_eq_self]
    intro issue h
    rw [ruleId_of_mem_ownIssues h, same, beq_iff_eq]
  · rw [if_neg same, List.filter_eq_nil_iff]
    intro issue h
    rw [ruleId_of_mem_ownIssues h, beq_iff_eq]
    intro text
    have both := ofText?_text other
    rw [text, ofText?_text id] at both
    exact same (Option.some.inj both).symm

theorem issuesOf_flatMap {α : Type} (id : RuleId) (xs : List α) (f : α → List Issue) :
    issuesOf id (xs.flatMap f) = xs.flatMap fun x => issuesOf id (f x) := List.filter_flatMap

/-- Of rules that are all different, what one of them reports is reported once. -/
theorem flatMap_sole {ids : List RuleId} {id : RuleId} {f : RuleId → List Issue}
    (distinct : ids.Nodup) (absent : id ∉ ids → f id = []) :
    (ids.flatMap fun other => if other = id then f other else []) = f id := by
  induction ids with
  | nil => exact (absent List.not_mem_nil).symm
  | cons first rest ih =>
    rw [List.nodup_cons] at distinct
    rw [List.flatMap_cons]
    by_cases here : first = id
    · subst here
      have none : (rest.flatMap fun other => if other = first then f other else []) = [] := by
        rw [List.flatMap_eq_nil_iff]
        intro other ho
        rw [if_neg]
        rintro rfl
        exact distinct.1 ho
      rw [if_pos rfl, none, List.append_nil]
    · rw [if_neg here, List.nil_append]
      refine ih distinct.2 fun missing => absent fun listed => ?_
      exact missing ((List.mem_cons.mp listed).resolve_left (Ne.symm here))

theorem mem_ofFormat {id : RuleId} {format : Format} :
    id ∈ RuleId.ofFormat format ↔ id.rule.format = format := by
  have listed : id ∈ RuleId.all := by cases id <;> decide
  rw [RuleId.ofFormat, List.mem_filter, and_iff_right listed, beq_iff_eq]

theorem nodup_ofFormat (format : Format) : (RuleId.ofFormat format).Nodup := by
  have all : RuleId.all.Nodup := by decide
  exact all.filter _

theorem issuesOf_issuesAt (id : RuleId) (v : Visit) :
    issuesOf id (issuesAt d rules v) = ownIssues d id (rules.config id) v := by
  rw [issuesAt, issuesOf_flatMap]
  simp only [issuesOf_ownIssues]
  refine flatMap_sole (f := fun other => ownIssues d other (rules.config other) v)
    (nodup_ofFormat d.format) fun absent => ?_
  rw [mem_ofFormat] at absent
  exact if_neg fun all => absent all.1

/-- The issues of a rule in a run are what it reports itself, visit by visit. -/
theorem issuesOf_lint (ran : lint d rules = .ok issues) (id : RuleId) :
    issuesOf id issues = d.root.walk.flatMap (ownIssues d id (rules.config id)) := by
  rw [eq_of_lint ran, issuesOf_flatMap]
  simp only [issuesOf_issuesAt]

/-! ### The order of the issues -/

/-- Where an issue comes from: the place of the visited node, the position of the rule among those
of the language, and the position of the finding among those of the rule. -/
abbrev Provenance := Place × Nat × Nat

/-- The order of walks, at one place that of the rules, and under one rule that of its findings. -/
def Provenance.Before : Provenance → Provenance → Prop :=
  Prod.Lex (· < ·) (Prod.Lex (· < ·) (· < ·))

/-- The issue that comes from somewhere in a document. -/
def issueAt? (d : Document) (rules : RuleSet) (p : Provenance) : Option Issue :=
  (d.root.visitAt? p.1).bind fun v => (RuleId.ofFormat d.format)[p.2.1]?.bind fun id =>
    (ownIssues d id (rules.config id) v)[p.2.2]?

/-- The issues of a run are those that come from anywhere, in the order of where they come from. -/
theorem lists_lint (ran : lint d rules = .ok issues) :
    Lists Provenance.Before (issueAt? d rules) issues := by
  have inner : ∀ v ∈ d.root.walk, Lists (Prod.Lex (· < ·) (· < ·))
      (fun k : Nat × Nat => (RuleId.ofFormat d.format)[k.1]?.bind fun id =>
        (ownIssues d id (rules.config id) v)[k.2]?) (issuesAt d rules v) :=
    fun v _ => (lists_getElem? _).flatMap fun id _ => lists_getElem? _
  rw [eq_of_lint ran]
  exact d.root.lists_walk.flatMap inner

/-! ### Where a run stops -/

/-- The documentation of every node and field of a tree is a text or absent. -/
def HasTextDocs (s : Schema) : Prop :=
  ∀ t ∈ s.nodes, t.documentation.isTextOrNull = true ∧
    ∀ f ∈ t.fields, f.documentation.isTextOrNull = true

/-- A rule matches a name of a node against its pattern. -/
def RuleId.Tests (id : RuleId) (node : Schema) (name : String) : Prop :=
  match id with
  | .namingConvention | .messageNaming => node.name = .str name
  | .enumUppercase => name ∈ node.symbols
  | .fieldNaming => ∃ f ∈ node.fields, f.name = name
  | _ => False

/-- The pattern of an enabled rule leaves a broken group at a name that the rule tests. -/
def HasBrokenPattern (rules : RuleSet) (d : Document) : Prop :=
  ∃ v ∈ d.root.walk, ∃ id : RuleId, id.rule.format = d.format ∧ rules.isEnabled id = true ∧
    id.rule.applies v = true ∧ ∃ name, id.Tests v.node name ∧
      BreaksAt (rules.config id).options name (.pattern .brokenGroup)

theorem not_isStrayDoc {documentation : Json} {e : Failure}
    (text : documentation.isTextOrNull = true) : ¬ IsStrayDoc documentation e := by
  rintro ⟨given, other, -⟩
  obtain ⟨word, rfl⟩ := Schema.exists_text_of_isTruthy text given
  exact other word rfl

theorem breaksAt_eq {options : Options} {name : String} {e : Failure}
    (h : BreaksAt options name e) : e = .pattern .brokenGroup := by
  obtain ⟨_, _, -, -, -, rfl⟩ := h
  rfl

/-- Rules stop in a document only for their patterns. -/
def StopsForPatterns (d : Document) : Prop :=
  ∀ v ∈ d.root.walk, ∀ id : RuleId, id.rule.format = d.format → ∀ options e,
    id.Stops v options e ↔ ∃ name, id.Tests v.node name ∧ BreaksAt options name e

/-- Documentations that are texts stop no rule. -/
theorem stopsForPatterns_of_texts (texts : HasTextDocs d.root) : StopsForPatterns d := by
  intro v hv id _ options e
  obtain ⟨doc, fieldDocs⟩ := texts v.node (List.mem_map_of_mem hv)
  cases id with
  | docRequired =>
    exact iff_of_false (fun h => not_isStrayDoc doc h.2) (by simp [RuleId.Tests])
  | descriptionRequired => exact iff_of_false (not_isStrayDoc doc) (by simp [RuleId.Tests])
  | fieldDocRequired =>
    refine iff_of_false ?_ (by simp [RuleId.Tests])
    rintro ⟨f, hf, stray⟩
    exact not_isStrayDoc (fieldDocs f hf) stray
  | _ => simp [RuleId.Stops, RuleId.Tests]

theorem stopsAt_iff (patterns : StopsForPatterns d) {e : Failure} :
    StopsAt rules d e ↔ e = .pattern .brokenGroup ∧ HasBrokenPattern rules d := by
  constructor
  · rintro ⟨v, hv, rule, hr, applies, stops⟩
    obtain ⟨language, config, enabled⟩ := mem_activeRules.mp hr
    obtain ⟨name, tests, breaks⟩ := (patterns v hv rule.1 language _ _).mp stops
    obtain rfl := breaksAt_eq breaks
    rw [config] at breaks enabled
    exact ⟨rfl, v, hv, rule.1, language, enabled, applies, name, tests, breaks⟩
  · rintro ⟨rfl, v, hv, id, language, enabled, applies, name, tests, breaks⟩
    exact ⟨v, hv, (id, rules.config id), mem_activeRules.mpr ⟨language, rfl, enabled⟩, applies,
      (patterns v hv id language _ _).mpr ⟨name, tests, breaks⟩⟩

/-- A run comes to an end, unless a pattern is broken or a name is no text. -/
theorem lint_cases (patterns : StopsForPatterns d) (usable : rules.IsUsable) :
    ((∃ issues, lint d rules = .ok issues) ∧ ¬ HasBrokenPattern rules d) ∨
    (lint d rules = .error (.pattern .brokenGroup) ∧ HasBrokenPattern rules d) ∨
    ((∃ fault, lint d rules = .error (.type fault)) ∧
      ¬ d.root.HasTextNames (d.format != .jsonSchema)) := by
  have cases_ {refused : Failure → Prop} (ends : Ends refused (StopsAt rules d) (lint d rules)) :
      ((∃ issues, lint d rules = .ok issues) ∧ ¬ HasBrokenPattern rules d) ∨
      (lint d rules = .error (.pattern .brokenGroup) ∧ HasBrokenPattern rules d) ∨
      ∃ e, refused e ∧ lint d rules = .error e := by
    obtain ⟨made, clear⟩ | ⟨e, failed, refusal | stops⟩ := ends
    · exact .inl ⟨made, fun broken => clear _ ((stopsAt_iff patterns).mpr ⟨rfl, broken⟩)⟩
    · exact .inr (.inr ⟨e, refusal, failed⟩)
    · obtain ⟨rfl, broken⟩ := (stopsAt_iff patterns).mp stops
      exact .inr (.inl ⟨failed, broken⟩)
  by_cases named : d.root.HasTextNames (d.format != .jsonSchema)
  · have ends : EndsFor (StopsAt rules d) (lint d rules) := ends_lint usable d (.inl named)
    obtain ended | stopped | ⟨e, refusal, -⟩ := cases_ ends
    · exact .inl ended
    · exact .inr (.inl stopped)
    · exact refusal.elim
  · have typed : ∀ fault, (∃ other, Failure.type fault = .type other) := fun fault => ⟨fault, rfl⟩
    have ends : Ends (fun e => ∃ fault, e = .type fault) (StopsAt rules d) (lint d rules) :=
      ends_lint usable d (.inr typed)
    obtain ended | stopped | ⟨e, ⟨fault, rfl⟩, failed⟩ := cases_ ends
    · exact .inl ended
    · exact .inr (.inl stopped)
    · exact .inr (.inr ⟨⟨fault, failed⟩, named⟩)

/-! ### Runs side by side -/

/-- Rules do not interfere. Under rules that were configured, a run over a document whose
documentations are texts yields its issues in order: by the places of the nodes, then by the rules,
then by the findings of a rule. It stops only for a broken pattern, or at a name that is no text.
And where two runs come to their end, a rule that both configure alike has the same issues in
both. -/
theorem lint_noninterference (texts : HasTextDocs d.root) :
    (∀ rules, IsConfigured rules →
      (∃ issues, lint d rules = .ok issues ∧ ¬ HasBrokenPattern rules d ∧
        Lists Provenance.Before (issueAt? d rules) issues) ∨
      (lint d rules = .error (.pattern .brokenGroup) ∧ HasBrokenPattern rules d) ∨
      ((∃ fault, lint d rules = .error (.type fault)) ∧
        ¬ d.root.HasTextNames (d.format != .jsonSchema))) ∧
    ∀ (a b : RuleSet) (id : RuleId), a.config id = b.config id →
      ∀ issuesA issuesB, lint d a = .ok issuesA → lint d b = .ok issuesB →
        issuesOf id issuesA = issuesOf id issuesB := by
  refine ⟨fun rules configured => ?_, fun a b id same issuesA issuesB ranA ranB => ?_⟩
  · obtain ⟨⟨issues, ran⟩, sound⟩ | stopped := lint_cases (stopsForPatterns_of_texts texts)
      configured.isUsable
    · exact .inl ⟨issues, ran, sound, lists_lint ran⟩
    · exact .inr stopped
  · rw [issuesOf_lint ranA, issuesOf_lint ranB, same]

/-- A record without documentation that holds a list of shades. -/
def paletteRoot : Schema :=
  { kind := .record, name := .str "palette", qualifier := some "n",
    fields := [{ name := "shades", type := {
      kind := .array,
      items := some { kind := .enum, name := .str "shade", qualifier := some "n",
                      symbols := ["dark", "LIGHT"] } } }] }

def paletteDocument : Document := { format := .avro, root := paletteRoot }

/-- The default rules, without the one on symbols. -/
def lenientRules : RuleSet :=
  RuleSet.defaults.set .enumUppercase
    { RuleId.enumUppercase.defaultConfig with enabled := false }

theorem isConfigured_lenientRules : IsConfigured lenientRules := by
  have accepted : (mergeOverrides .defaults
      (.mapping [(.str "enum_uppercase", .bool false)])).value = .ok lenientRules := rfl
  exact .merged .defaults accepted

theorem lint_palette :
    (∃ usual, lint paletteDocument .defaults = .ok usual ∧ usual.length = 3) ∧
      ∃ lenient, lint paletteDocument lenientRules = .ok lenient ∧ lenient.length = 2 := by
  have usual : List.length <$> lint paletteDocument .defaults = .ok 3 := by decide +kernel
  have lenient : List.length <$> lint paletteDocument lenientRules = .ok 2 := by decide +kernel
  exact ⟨map_eq_ok.mp usual, map_eq_ok.mp lenient⟩

/-- The shades are reported under the default rules only, the missing documentation under both. -/
theorem lint_noninterference_palette :
    HasTextDocs paletteDocument.root ∧ IsConfigured lenientRules ∧
      RuleSet.defaults.config .docRequired = lenientRules.config .docRequired ∧
      ∃ usual lenient, lint paletteDocument .defaults = .ok usual ∧
        lint paletteDocument lenientRules = .ok lenient ∧ usual.length = 3 ∧ lenient.length = 2 ∧
        Lists Provenance.Before (issueAt? paletteDocument lenientRules) lenient ∧
        issuesOf .docRequired usual = issuesOf .docRequired lenient := by
  have texts : HasTextDocs paletteDocument.root := by
    unfold HasTextDocs
    decide +kernel
  have same : RuleSet.defaults.config .docRequired = lenientRules.config .docRequired := by
    rw [lenientRules, config_set, if_neg (by decide)]
  obtain ⟨⟨usual, ranUsual, three⟩, lenient, ranLenient, two⟩ := lint_palette
  have ordered : Lists Provenance.Before (issueAt? paletteDocument lenientRules) lenient := by
    obtain ⟨issues, ran, -, ordered⟩ | ⟨stopped, -⟩ | ⟨⟨fault, stopped⟩, -⟩ :=
      (lint_noninterference texts).1 lenientRules isConfigured_lenientRules
    · obtain rfl := Except.ok.inj (ran.symm.trans ranLenient)
      exact ordered
    · cases stopped.symm.trans ranLenient
    · cases stopped.symm.trans ranLenient
  exact ⟨texts, isConfigured_lenientRules, same, usual, lenient, ranUsual, ranLenient, three, two,
    ordered, (lint_noninterference texts).2 _ _ _ same _ _ ranUsual ranLenient⟩

/-! ### A pattern that stops a run -/

/-- The default configuration of a rule with a pattern of its own. -/
def patternConfig (id : RuleId) (pattern : String) : RuleConfig :=
  let usual := RuleSet.defaults.config id
  ⟨true, usual.severity, Datum.setEntry usual.options (.str "pattern") (.str pattern)⟩

/-- The default rules with a pattern given to one of them. -/
def patternRules (id : RuleId) (pattern : String) : RuleSet :=
  RuleSet.defaults.set id (patternConfig id pattern)

/-- A pattern that can be read is accepted, unless it spells a boolean or a number. -/
theorem isConfigured_patternRules {id : RuleId} {pattern : String}
    (checked : id.rule.optionCheck = some .pattern) (plain : booleanText? pattern = none)
    (word : Text.isAllDigits (Text.stripChars pattern.toList) = false) (nonempty : pattern ≠ "")
    (reads : (Convention.ofText pattern).isOk = true) :
    IsConfigured (patternRules id pattern) := by
  have entry : Datum.textEntry? (patternConfig id pattern).options "pattern" =
      some (.str pattern) := by
    rw [patternConfig, Datum.textEntry?_setEntry, if_pos (by simp [Datum.sameKey])]
  have usable : OptionCheck.pattern.run (patternConfig id pattern).options = .ok () := by
    cases made : Convention.ofText pattern with
    | ok c => simp [OptionCheck.run, entry, nonempty, made, bind, Except.bind, pure, Except.pure]
    | error fault =>
      rw [made] at reads
      cases reads
  have applied : applyOverride id (RuleSet.defaults.config id) (.str pattern) =
      .ok (patternConfig id pattern) := by
    dsimp only [applyOverride, applyOption]
    rw [plain, primaryOption_of_pattern checked]
    dsimp only [optionValue]
    rw [if_neg (by simp [word])]
    show validated id (patternConfig id pattern) = _
    rw [validated, checked]
    dsimp only
    rw [usable]
  have accepted : (mergeOverrides .defaults (.mapping [(.str id.text, .str pattern)])).value =
      .ok (patternRules id pattern) := by
    have sets : setting? (.str id.text, .str pattern) = some (id, .str pattern) :=
      setting?_eq_some.mpr ⟨ofText?_text id, rfl, by simp⟩
    rw [value_mergeOverrides, settings_singleton, sets, Option.toList_some, List.foldlM_cons,
      setRule, applied]
    rfl
  exact .merged .defaults accepted

/-- After a round that takes `b`, an empty one leaves the group behind it closed before it opens. -/
def brokenPattern : String := "(?:(b)|a*)*+"

theorem isConfigured_brokenPattern {id : RuleId} (checked : id.rule.optionCheck = some .pattern) :
    IsConfigured (patternRules id brokenPattern) :=
  isConfigured_patternRules checked (by decide +kernel) (by decide +kernel) (by decide)
    (by decide +kernel)

/-- A record whose name the pattern breaks at. -/
def bandText : String :=
  "\x7b\"type\":\"record\",\"name\":\"ba\",\"namespace\":\"n\",\"fields\":[]\x7d"

def bandDocument : Document :=
  { format := .avro, root := { kind := .record, name := .str "ba", qualifier := some "n" } }

theorem parse_bandText : parse bandText .avro = .ok bandDocument := by
  have read : jsonOfSchemaText bandText = .ok (.obj [("type", .str "record"), ("name", .str "ba"),
      ("namespace", .str "n"), ("fields", .arr [])]) :=
    jsonOfSchemaText_eq_ok.mpr (Json.ofText_of_spelled rfl (by cbv))
  exact parse_avro_eq_ok.mpr ⟨_, _, read, by cbv, rfl⟩

/-- The pattern of one rule may keep the issues of another one back. -/
theorem brokenPattern_silences :
    parse bandText .avro = .ok bandDocument ∧ HasTextDocs bandDocument.root ∧
      IsConfigured (patternRules .namingConvention brokenPattern) ∧
      RuleSet.defaults.config .docRequired =
        (patternRules .namingConvention brokenPattern).config .docRequired ∧
      (∃ issues, lint bandDocument .defaults = .ok issues ∧
        issuesOf .docRequired issues ≠ []) ∧
      ¬ ∃ issues, lint bandDocument (patternRules .namingConvention brokenPattern) =
        .ok issues := by
  have usual : issuesOf .docRequired <$> lint bandDocument .defaults = .ok [
      { ruleId := "doc_required", severity := .warning, message := "Missing documentation" }] := by
    decide +kernel
  have stopped : (lint bandDocument
      (patternRules .namingConvention brokenPattern)).isOk = false := by
    decide +kernel
  refine ⟨parse_bandText, by unfold HasTextDocs; decide +kernel, isConfigured_brokenPattern rfl,
    ?_, ?_, ?_⟩
  · rw [patternRules, config_set, if_neg (by decide)]
  · obtain ⟨issues, ran, own⟩ := map_eq_ok.mp usual
    exact ⟨issues, ran, by simp [own]⟩
  · rintro ⟨issues, ran⟩
    rw [ran] at stopped
    cases stopped

end SchemaReview.Lint
