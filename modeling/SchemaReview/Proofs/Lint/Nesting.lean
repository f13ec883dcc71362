import SchemaReview.Proofs.Avro.Tree
import SchemaReview.Proofs.Lint.Issues

/-!
# How deep records are nested

The rule on nesting reports a record where the limit is passed, that is, where as many records are
above it as the limit allows. What is further down on the same branch is not reported again, and a
chain of records that is too long passes the limit at one of them. In between there may be anything
that a record is reached through: fields, unions, arrays and maps.
-/
namespace SchemaReview

/-- Where more elements than a number are of a kind, one of them has this number before it. -/
theorem exists_split_of_lt_countP {α : Type} {kind : α → Bool} {xs : List α} {n : Nat}
    (h : n < xs.countP kind) :
    ∃ before x after, xs = before ++ x :: after ∧ kind x = true ∧ before.countP kind = n := by
  induction xs generalizing n with
  | nil => cases h
  | cons x rest ih =>
    cases here : kind x with
    | true =>
      cases n with
      | zero => exact ⟨[], x, rest, rfl, here, rfl⟩
      | succ n =>
        rw [List.countP_cons_of_pos here, Nat.add_lt_add_iff_right] at h
        obtain ⟨before, y, after, rfl, found, counts⟩ := ih h
        exact ⟨x :: before, y, after, rfl, found, by rw [List.countP_cons_of_pos here, counts]⟩
    | false =>
      have no : ¬ kind x = true := by simp [here]
      rw [List.countP_cons_of_neg no] at h
      obtain ⟨before, y, after, rfl, found, counts⟩ := ih h
      exact ⟨x :: before, y, after, rfl, found, by rw [List.countP_cons_of_neg no, counts]⟩

namespace Schema

/-- A record stands at a place, and a given number of records above it. -/
def IsDeep (s : Schema) (limit : Nat) (place : Place) : Prop :=
  ∃ above node, s.nodesTo? place = some (above ++ [node]) ∧ node.kind = .record ∧
    above.countP (fun t => t.kind == .record) = limit

section

variable {s : Schema} {limit : Nat}

/-- No place with a given number of records above it is below another one. -/
theorem IsDeep.eq_of_below {p q : Place} (hp : s.IsDeep limit p) (hq : s.IsDeep limit q)
    (h : p <+: q) : p = q := by
  obtain ⟨above, node, leads, record, counts⟩ := hp
  obtain ⟨above', node', leads', -, counts'⟩ := hq
  obtain ⟨rest, rfl⟩ := h
  cases rest with
  | nil => rw [List.append_nil]
  | cons i rest =>
    have length := length_of_nodesTo? leads'
    simp only [List.length_append, List.length_cons, List.length_nil, Nat.add_right_cancel_iff]
      at length
    have upper := nodesTo?_take leads' p.length
    rw [List.take_left, leads, List.take_append_of_le_length (by omega)] at upper
    have passed : (above ++ [node]).countP (fun t => t.kind == .record) ≤ limit := by
      rw [Option.some.inj upper, ← counts']
      exact (List.take_sublist _ _).countP_le
    simp [List.countP_append, counts, record] at passed

theorem exists_isDeep_iff :
    (∃ place, s.IsDeep limit place) ↔
      ∃ place nodes, s.nodesTo? place = some nodes ∧
        limit < nodes.countP fun t => t.kind == .record := by
  constructor
  · rintro ⟨place, above, node, leads, record, counts⟩
    refine ⟨place, _, leads, ?_⟩
    simp [List.countP_append, counts, record]
  · rintro ⟨place, nodes, leads, long⟩
    obtain ⟨above, node, below, rfl, record, counts⟩ := exists_split_of_lt_countP long
    refine ⟨place.take above.length, above, node, ?_, beq_iff_eq.mp record, counts⟩
    have taken := nodesTo?_take leads above.length
    rw [List.append_cons, List.take_left' (by simp)] at taken
    exact taken

end

end Schema

/-- Records are all that counts for the depth in an Avro schema. -/
theorem Avro.IsTree.isNesting_eq {t : Schema} (h : Avro.IsTree t) :
    t.kind.isNesting = (t.kind == .record) := by
  cases h <;> rfl

namespace Lint

/-- A rule is the only one of its language that is enabled. -/
def RuleSet.HasOnly (rules : RuleSet) (id : RuleId) : Prop :=
  ∀ other : RuleId, other.rule.format = id.rule.format →
    (rules.isEnabled other = true ↔ other = id)

theorem activeRules_of_hasOnly {rules : RuleSet} {id : RuleId} (sole : rules.HasOnly id) :
    activeRules rules id.rule.format = [(id, rules.config id)] := by
  have chosen : (RuleId.ofFormat id.rule.format).filter rules.isEnabled = [id] := by
    have counted := List.count_eq_one_of_mem (nodup_ofFormat id.rule.format)
      (mem_ofFormat.mpr rfl)
    rw [← List.replicate_one, ← counted, ← List.filter_eq]
    refine List.filter_congr fun other listed => ?_
    rw [Bool.eq_iff_iff, sole other (mem_ofFormat.mp listed), decide_eq_true_iff, eq_comm]
  rw [activeRules, List.filter_map]
  exact congrArg _ chosen

section

variable {d : Document} {rules : RuleSet} {limit : Nat}

/-- What is reported where the limit is passed. -/
def depthIssue (config : RuleConfig) (limit : Nat) (path : Path) : Issue :=
  { ruleId := "max_nesting_depth", severity := config.severity,
    message := "Nesting depth " ++ toString (limit + 1) ++ " exceeds the maximum of " ++
      toString limit,
    path := path }

/-- The issue at a visit where the limit is passed. -/
def depthIssueAt? (config : RuleConfig) (limit : Nat) (v : Visit) : Option Issue :=
  if v.node.kind = .record ∧ v.depth = limit + 1 then some (depthIssue config limit v.path)
  else none

theorem visitIssues_singleton {v : Visit} {rule : RuleId × RuleConfig} {issues : List Issue}
    (h : ruleIssues d v rule = .ok issues) : visitIssues d v [rule] = .ok issues := by
  rw [visitIssues, List.mapM_cons, h]
  exact congrArg Except.ok (List.append_nil issues)

theorem ruleIssues_depth {config : RuleConfig}
    (limited : Datum.textEntry? config.options "limit" = some (.int limit)) (v : Visit) :
    ruleIssues d v (.maxNestingDepth, config) = .ok (depthIssueAt? config limit v).toList := by
  have applies : RuleId.maxNestingDepth.rule.applies v = decide (v.node.kind = .record) := by
    simp [Rule.applies, RuleId.rule]
  have finds : RuleId.maxNestingDepth.check d v config.options =
      .ok (if v.depth = limit + 1 then
        one ("Nesting depth " ++ toString (limit + 1) ++ " exceeds the maximum of " ++
          toString limit)
      else []) := by
    rw [RuleId.check, checkNestingDepth, limited]
    dsimp only [Option.getD_some]
    by_cases passed : v.depth = limit + 1
    · rw [if_pos (by simp [passed]), if_pos passed, passed]
      rfl
    · rw [if_neg (by omega), if_neg passed]
  rw [ruleIssues, applies, finds, depthIssueAt?]
  by_cases record : v.node.kind = .record
  · rw [if_pos (decide_eq_true record)]
    by_cases passed : v.depth = limit + 1
    · rw [if_pos passed, if_pos ⟨record, passed⟩]
      simp [bind, Except.bind, pure, Except.pure, one, issueOf, depthIssue, RuleId.text]
    · rw [if_neg passed, if_neg fun both => passed both.2]
      rfl
  · rw [if_neg (by simp [record]), if_neg fun both => record both.1]
    rfl

theorem lint_depth (format : d.format = .avro) (sole : rules.HasOnly .maxNestingDepth)
    (limited : Datum.textEntry? (rules.config .maxNestingDepth).options "limit" =
      some (.int limit)) :
    lint d rules =
      .ok (d.root.walk.filterMap (depthIssueAt? (rules.config .maxNestingDepth) limit)) := by
  have active : activeRules rules d.format =
      [(.maxNestingDepth, rules.config .maxNestingDepth)] :=
    format ▸ activeRules_of_hasOnly sole
  have walked := mapM_eq_ok_map fun v (_ : v ∈ d.root.walk) =>
    visitIssues_singleton (ruleIssues_depth (d := d) limited v)
  rw [lint, active, walked, List.filterMap_eq_flatMap_toList]
  rfl

/-- A record is deep where its visit is as deep as the limit is passed. -/
theorem isDeep_iff {s : Schema} (tree : Avro.IsTree s) {place : Place} {v : Visit}
    (visited : s.visitAt? place = some v) :
    s.IsDeep limit place ↔ v.node.kind = .record ∧ v.depth = limit + 1 := by
  obtain ⟨above, leads, depth⟩ := Schema.visitAt?_eq_some visited
  have records : v.depth = (above ++ [v.node]).countP fun t => t.kind == .record := by
    rw [depth]
    refine List.countP_congr fun t ht => ?_
    rw [(tree.node (Schema.subset_of_nodesTo? leads ht)).isNesting_eq]
  constructor
  · rintro ⟨above', node, leads', record, counts⟩
    obtain ⟨rfl, same⟩ := List.append_inj' (Option.some.inj (leads.symm.trans leads')) rfl
    obtain rfl := List.singleton_inj.mp same
    exact ⟨record, by simp [records, List.countP_append, counts, record]⟩
  · rintro ⟨record, passed⟩
    refine ⟨above, v.node, leads, record, ?_⟩
    simpa [List.countP_append, record, passed] using records.symm

theorem isDeep_iff_isSome {s : Schema} (tree : Avro.IsTree s) (config : RuleConfig)
    (place : Place) :
    s.IsDeep limit place ↔
      ((s.visitAt? place).bind (depthIssueAt? config limit)).isSome = true := by
  cases visited : s.visitAt? place with
  | none =>
    refine iff_of_false ?_ (by simp)
    rintro ⟨above, node, leads, -⟩
    have same := s.isSome_visitAt? place
    rw [visited, leads] at same
    cases same
  | some v =>
    rw [isDeep_iff tree visited, Option.bind_some, depthIssueAt?]
    split <;> simp_all

/-- Where the limit is the only rule enabled, a run over an Avro schema reports the records that
have exactly as many records above them as the limit allows, once each and in the order of a walk.
It reports something exactly if a chain of records is longer than the limit, and no two places on
one branch. -/
theorem lint_nestingDepth {text : String} (read : parse text .avro = .ok d)
    (sole : rules.HasOnly .maxNestingDepth)
    (limited : Datum.textEntry? (rules.config .maxNestingDepth).options "limit" =
      some (.int limit)) :
    ∃ issues places, lint d rules = .ok issues ∧ places.Pairwise (· < ·) ∧
      (∀ place, place ∈ places ↔ d.root.IsDeep limit place) ∧
      List.Forall₂ (fun place issue => ∃ v, d.root.visitAt? place = some v ∧
        issue = depthIssue (rules.config .maxNestingDepth) limit v.path) places issues ∧
      (issues ≠ [] ↔ ∃ place nodes, d.root.nodesTo? place = some nodes ∧
        limit < nodes.countP fun t => t.kind == .record) ∧
      ∀ p ∈ places, ∀ q ∈ places, p <+: q → p = q := by
  obtain ⟨v, root, -, built, rfl⟩ := parse_avro_eq_ok.mp read
  have tree := Avro.isTree_of_ofJson built
  obtain ⟨places, ordered, found, complete⟩ :=
    root.lists_walk.filterMap (depthIssueAt? (rules.config .maxNestingDepth) limit)
  have deep (place : Place) : place ∈ places ↔ root.IsDeep limit place :=
    (mem_keys_iff found complete).trans (isDeep_iff_isSome tree _ place).symm
  refine ⟨_, places, lint_depth rfl sole limited, ordered, deep, ?_, ?_, ?_⟩
  · refine found.imp fun place issue here => ?_
    obtain ⟨v, visited, reported⟩ := Option.bind_eq_some_iff.mp here
    refine ⟨v, visited, ?_⟩
    unfold depthIssueAt? at reported
    split at reported
    · exact (Option.some.inj reported).symm
    · cases reported
  · dsimp only
    rw [← Schema.exists_isDeep_iff, ← List.length_pos_iff, ← found.length_eq,
      List.length_pos_iff_exists_mem]
    exact exists_congr deep
  · intro p hp q hq
    exact ((deep p).mp hp).eq_of_below ((deep q).mp hq)

end

/-- A record with a choice of one map of records, each with a record in turn. -/
def chainText : String :=
  "\x7b\"type\":\"record\",\"name\":\"a\",\"fields\":[\x7b\"name\":\"x\",\"type\":[" ++
    "\x7b\"type\":\"map\",\"values\":\x7b\"type\":\"record\",\"name\":\"b\",\"fields\":[" ++
    "\x7b\"name\":\"y\",\"type\":\x7b\"type\":\"record\",\"name\":\"c\",\"fields\":[]" ++
    "\x7d\x7d]\x7d\x7d]\x7d]\x7d"

/-- The second record of the chain. -/
def chainLink : Schema where
  kind := .record
  name := .str "b"
  fields := [{ name := "y", type := { kind := .record, name := .str "c" } }]

def chainMap : Schema := { kind := .map, values := some chainLink }

def chainChoice : Schema := { kind := .union, members := [chainMap] }

def chainDocument : Document where
  format := .avro
  root := { kind := .record, name := .str "a", fields := [{ name := "x", type := chainChoice }] }

set_option maxRecDepth 2000 in
theorem parse_chainText : parse chainText .avro = .ok chainDocument := by
  have spelled : chainText = String.ofList _ :=
    spelled_append (spelled_append (spelled_append rfl rfl) rfl) rfl
  have read : jsonOfSchemaText chainText = .ok (.obj [("type", .str "record"), ("name", .str "a"),
      ("fields", .arr [.obj [("name", .str "x"), ("type", .arr [.obj [("type", .str "map"),
        ("values", .obj [("type", .str "record"), ("name", .str "b"),
          ("fields", .arr [.obj [("name", .str "y"), ("type", .obj [("type", .str "record"),
            ("name", .str "c"), ("fields", .arr [])])]])])]])]])]) :=
    jsonOfSchemaText_eq_ok.mpr (Json.ofText_of_spelled spelled (by cbv))
  exact parse_avro_eq_ok.mpr ⟨_, _, read, by cbv, rfl⟩

/-- One rule is enabled, with options of its own. -/
def soleRules (id : RuleId) (options : Options) : RuleSet where
  configs := RuleId.all.map fun other =>
    (other, { other.defaultConfig with
      enabled := other == id
      options := if other = id then options else other.rule.defaultOptions })

/-- At a limit of one, the second record is reported and the third one is not. -/
theorem lint_nestingDepth_chain :
    let rules := soleRules .maxNestingDepth [(.str "limit", .int 1)]
    parse chainText .avro = .ok chainDocument ∧ rules.HasOnly .maxNestingDepth ∧
      Datum.textEntry? (rules.config .maxNestingDepth).options "limit" = some (.int 1) ∧
      ∃ (issues : List Issue) (places : List Place), lint chainDocument rules = .ok issues ∧
        issues ≠ [] ∧ [0, 0, 0] ∈ places ∧ [0, 0, 0, 0] ∉ places ∧
        ∀ place, place ∈ places ↔ chainDocument.root.IsDeep 1 place := by
  intro rules
  have sole : rules.HasOnly .maxNestingDepth := by
    intro other
    cases other <;> decide
  have limited : Datum.textEntry? (rules.config .maxNestingDepth).options "limit" =
      some (.int (1 : Nat)) := rfl
  obtain ⟨issues, places, ran, -, deep, -, reported, apart⟩ :=
    lint_nestingDepth parse_chainText sole limited
  have second : [0, 0, 0] ∈ places :=
    (deep _).mpr ⟨[chainDocument.root, chainChoice, chainMap], chainLink, rfl, rfl, rfl⟩
  refine ⟨parse_chainText, sole, limited, issues, places, ran, ?_, second, fun third => ?_, deep⟩
  · exact reported.mpr ⟨[0, 0, 0], _, rfl, by decide⟩
  · exact absurd (apart _ second _ third ⟨[0], rfl⟩) (by decide)

end Lint
end SchemaReview
