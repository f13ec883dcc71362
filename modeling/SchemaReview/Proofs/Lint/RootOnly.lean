import SchemaReview.Proofs.Lint.Issues

/-!
# Rules on the root

A rule on the root looks at the visits whose path is empty. Arrays and maps hand their path on, so
these are not only the visit of the root but also those of what a root array or map wraps, layer by
layer. The rules on Avro and Protobuf roots look at no array and no map and report once at most. A
rule on JSON Schema roots reports for each layer.
-/
namespace SchemaReview
namespace Schema

/-- Paths only grow on a walk. -/
theorem prefix_of_mem_walkFrom {s : Schema} {path : Path} {above : Nat} {owner : Option Field}
    {v : Visit} (hv : v ∈ s.walkFrom path above owner) : path <+: v.path := by
  obtain ⟨place, found⟩ := (s.lists_walkFrom path above owner).mem_iff.mp hv
  obtain ⟨way, -, rfl⟩ := Option.map_eq_some_iff.mp found
  exact List.prefix_append _ _

/-- The visits with the path where a walk starts are those of the layers of its first node. -/
theorem filter_walkFrom (s : Schema) (path : Path) (above : Nat) (owner : Option Field) :
    (s.walkFrom path above owner).filter (fun v => v.path == path) =
      s.layers.map fun t => ⟨path, t, above + t.level, owner⟩ := by
  rw [walkFrom_eq, layers_eq, List.filter_cons_of_pos (by simp), List.map_cons,
    List.filter_flatMap]
  refine congrArg _ ?_
  obtain ⟨flat, passed⟩ | ⟨sole, grows⟩ := s.branches_cases
  · rw [passed, List.flatMap_map, List.map_flatMap, flat]
    refine List.flatMap_congr fun t ht => ?_
    have := (of_wrapped?_eq_some (Option.mem_toList.mp ht)).2
    simpa [Branch.steps, Branch.field?] using filter_walkFrom t path above owner
  · rw [sole, Option.toList_none, List.flatMap_nil, List.map_nil, List.flatMap_eq_nil_iff]
    intro b hb
    rw [List.filter_eq_nil_iff]
    intro v hv
    obtain ⟨rest, longer⟩ := prefix_of_mem_walkFrom hv
    simp [← longer, grows b hb]
termination_by sizeOf s

/-- The visit of a node that a walk starts from. -/
def atStart (s : Schema) : Visit := ⟨[], s, s.level, none⟩

theorem filter_walk (s : Schema) :
    s.walk.filter (fun v => v.path.isEmpty) = s.layers.map atStart := by
  have starts := s.filter_walkFrom [] 0 none
  simp only [Nat.zero_add, List.beq_nil_eq] at starts
  exact starts

/-- What only the innermost layer can give is given once. -/
theorem length_flatMap_layers_le_one {α : Type} {f : Schema → List α} (s : Schema)
    (once : ∀ t, (f t).length ≤ 1) (outer : ∀ t, t.kind = .array ∨ t.kind = .map → f t = []) :
    (s.layers.flatMap f).length ≤ 1 := by
  rw [layers_eq, List.flatMap_cons]
  cases inner : s.wrapped? with
  | none => simpa using once s
  | some t =>
    obtain ⟨wrapper, _⟩ := of_wrapped?_eq_some inner
    simpa [outer s wrapper] using length_flatMap_layers_le_one t once outer
termination_by sizeOf s

end Schema

namespace Lint

variable {d : Document} {rules : RuleSet} {issues : List Issue} {id : RuleId}

/-- A rule on the root finds one thing at most. -/
theorem length_le_one_of_check (rootOnly : id.rule.rootOnly = true) {v : Visit} {options : Options}
    {findings : List Finding} (h : id.check d v options = .ok findings) :
    findings.length ≤ 1 := by
  cases id with
  | namespaceRequired | packageRequired | schemaVersionRequired | titleRequired =>
    obtain rfl := Except.ok.inj h
    simp only [checkNamespace, checkPackage, checkSchemaVersion, checkTitle]
    split <;> simp [one]
  | syntaxVersion =>
    obtain rfl := Except.ok.inj h
    unfold checkSyntax
    split
    · simp
    · dsimp only
      split <;> simp [one]
  | namingConvention =>
    simp only [RuleId.check, checkNaming] at h
    split at h
    · obtain rfl := pure_eq_ok.mp h
      simp
    · obtain ⟨c, -, h⟩ := bind_eq_ok.mp h
      obtain ⟨follows, -, h⟩ := bind_eq_ok.mp h
      split at h <;> obtain rfl := pure_eq_ok.mp h <;> simp [one]
  | descriptionRequired =>
    obtain ⟨missing, -, h⟩ := bind_eq_ok.mp h
    split at h <;> obtain rfl := pure_eq_ok.mp h <;> simp [one]
  | _ => cases rootOnly

theorem length_ownIssues_le_one (rootOnly : id.rule.rootOnly = true) (config : RuleConfig)
    (v : Visit) : (ownIssues d id config v).length ≤ 1 := by
  unfold ownIssues
  split
  · split
    · rename_i findings checked
      rw [List.length_map]
      exact length_le_one_of_check rootOnly checked
    · exact Nat.zero_le 1
  · exact Nat.zero_le 1

theorem ownIssues_of_not_applies {config : RuleConfig} {v : Visit}
    (passes : id.rule.applies v = false) : ownIssues d id config v = [] := by
  unfold ownIssues
  exact if_neg fun all => by simp [passes] at all

/-- The rules on Avro and Protobuf roots look at no array and no map. -/
theorem not_applies_wrapper (rootOnly : id.rule.rootOnly = true)
    (format : id.rule.format ≠ .jsonSchema) {v : Visit}
    (wrapper : v.node.kind = .array ∨ v.node.kind = .map) : id.rule.applies v = false := by
  have others : ∀ kind ∈ id.rule.appliesTo, kind ≠ .array ∧ kind ≠ .map := by
    cases id with
    | namespaceRequired | namingConvention | packageRequired | syntaxVersion => decide
    | schemaVersionRequired | titleRequired | descriptionRequired => exact absurd rfl format
    | _ => cases rootOnly
  rw [Rule.applies, Bool.and_eq_false_iff]
  refine .inr ?_
  rw [List.contains_eq_mem, decide_eq_false_iff_not]
  intro listed
  exact wrapper.elim (others _ listed).1 (others _ listed).2

/-- The issues of a rule on the root are those of the layers of the root. -/
theorem issuesOf_eq_layers (ran : lint d rules = .ok issues) (rootOnly : id.rule.rootOnly = true) :
    issuesOf id issues =
      d.root.layers.flatMap fun t => ownIssues d id (rules.config id) t.atStart := by
  have below : ∀ v ∈ d.root.walk, v.path.isEmpty = false →
      ownIssues d id (rules.config id) v = [] := fun v _ deep =>
    ownIssues_of_not_applies (by simp [Rule.applies, rootOnly, deep])
  rw [issuesOf_lint ran, ← flatMap_filter below, Schema.filter_walk, List.flatMap_map]

/-- Each layer of the root gives one issue of a rule on the root at most. An array or a map is the
root of further layers under JSON Schema rules only, and another root has no further ones. -/
theorem issuesOf_rootOnly (ran : lint d rules = .ok issues) (rootOnly : id.rule.rootOnly = true) :
    issuesOf id issues =
        (d.root.layers.flatMap fun t => ownIssues d id (rules.config id) t.atStart) ∧
      (∀ t : Schema, (ownIssues d id (rules.config id) t.atStart).length ≤ 1) ∧
      (issuesOf id issues).length ≤ d.root.layers.length ∧
      (id.rule.format ≠ .jsonSchema → (issuesOf id issues).length ≤ 1) ∧
      (d.root.kind ≠ .array → d.root.kind ≠ .map →
        issuesOf id issues = ownIssues d id (rules.config id) d.root.atStart ∧
          (issuesOf id issues).length ≤ 1) := by
  have eq := issuesOf_eq_layers ran rootOnly
  have once : ∀ t : Schema, (ownIssues d id (rules.config id) t.atStart).length ≤ 1 := fun t =>
    length_ownIssues_le_one rootOnly _ _
  refine ⟨eq, once, ?_, fun format => ?_, fun array map => ?_⟩
  · rw [eq, List.length_flatMap]
    have each : ∀ n ∈ d.root.layers.map fun t : Schema =>
        (ownIssues d id (rules.config id) t.atStart).length, n ≤ 1 :=
      List.forall_mem_map.mpr fun t _ => once t
    simpa using List.sum_le_card_nsmul _ 1 each
  · rw [eq]
    refine d.root.length_flatMap_layers_le_one once fun t wrapper => ?_
    exact ownIssues_of_not_applies (not_applies_wrapper rootOnly format wrapper)
  · rw [eq, Schema.layers_of_not_wrapper array map, List.flatMap_singleton]
    exact ⟨rfl, once _⟩

/-- A list of texts that declares its language and has no title. -/
def untitledText : String :=
  "\x7b\"$schema\":\"x\",\"type\":\"array\",\"items\":\x7b\"type\":\"string\"\x7d\x7d"

def untitledDocument : Document where
  format := .jsonSchema
  root := { kind := .array, items := some { kind := .primitive, typeName := some "string" } }
  schemaUri := some "x"

theorem parse_untitledText : parse untitledText .jsonSchema = .ok untitledDocument := by
  have read : jsonOfSchemaText untitledText = .ok (.obj [("$schema", .str "x"),
      ("type", .str "array"), ("items", .obj [("type", .str "string")])]) :=
    jsonOfSchemaText_eq_ok.mpr (Json.ofText_of_spelled rfl (by cbv))
  exact parse_jsonSchema_eq_ok.mpr ⟨_, read, by cbv⟩

theorem lint_untitled : ∃ issues, lint untitledDocument .defaults = .ok issues ∧
    (issuesOf .titleRequired issues).length = 2 := by
  have ran : (fun issues => (issuesOf .titleRequired issues).length) <$>
      lint untitledDocument .defaults = .ok 2 := by
    decide +kernel
  exact map_eq_ok.mp ran

theorem issuesOf_rootOnly_untitled : ∃ issues, lint untitledDocument .defaults = .ok issues ∧
    RuleId.titleRequired.rule.rootOnly = true ∧ (issuesOf .titleRequired issues).length = 2 ∧
    untitledDocument.root.layers.length = 2 ∧
    issuesOf .titleRequired issues = untitledDocument.root.layers.flatMap fun t =>
      ownIssues untitledDocument .titleRequired (RuleSet.defaults.config .titleRequired)
        t.atStart := by
  obtain ⟨issues, ran, two⟩ := lint_untitled
  exact ⟨issues, ran, rfl, two, rfl, (issuesOf_rootOnly ran rfl).1⟩

/-- The missing title of a root array is reported for what it holds once more. -/
theorem wrappedTitle_reportedTwice : parse untitledText .jsonSchema = .ok untitledDocument ∧
    IsConfigured .defaults ∧ RuleId.titleRequired.rule.rootOnly = true ∧
    ∃ issues, lint untitledDocument .defaults = .ok issues ∧
      ¬ (issuesOf .titleRequired issues).length ≤ 1 := by
  obtain ⟨issues, ran, two⟩ := lint_untitled
  exact ⟨parse_untitledText, .defaults, rfl, issues, ran, by simp [two]⟩

end Lint
end SchemaReview
