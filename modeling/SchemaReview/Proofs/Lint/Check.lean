import SchemaReview.Lint.Batch
import SchemaReview.Lint.Engine
import SchemaReview.Proofs.Batch
import SchemaReview.Proofs.Lint.RuleSet
import SchemaReview.Proofs.Outcome
import SchemaReview.Proofs.Parse.Outcome
import SchemaReview.Proofs.Schema.Shape

/-!
# Where linting stops

A rule that can use its options reports what it finds, with two exceptions: a documentation that is
given but is no text cannot be looked at, and a pattern may leave a group that closes before it
opens. Each of the two is the cause of a failure, and there is no other one in a parsed document.
Names that are no texts, as other documents may have, are refused for their type.
-/
namespace SchemaReview.Lint

/-- A documentation is given and is no text. -/
def IsStrayDoc (documentation : Json) (e : Failure) : Prop :=
  documentation.isTruthy = true ∧ (∀ s, documentation ≠ .str s) ∧
    e = .noAttribute documentation.typeName "strip"

/-- The pattern of a rule leaves a broken group at a name. -/
def BreaksAt (options : Options) (name : String) (e : Failure) : Prop :=
  ∃ text c, Datum.textEntry? options "pattern" = some (.str text) ∧
    Convention.ofText text = .ok c ∧ c.accepts name = .error .brokenGroup ∧
    e = .pattern .brokenGroup

/-- What a rule stops for at a visit. -/
def RuleId.Stops (id : RuleId) (v : Visit) (options : Options) (e : Failure) : Prop :=
  match id with
  | .docRequired => isAvroNamed v.node = true ∧ IsStrayDoc v.node.documentation e
  | .fieldDocRequired => ∃ f ∈ v.node.fields, IsStrayDoc f.documentation e
  | .descriptionRequired => IsStrayDoc v.node.documentation e
  | .namingConvention | .messageNaming =>
    ∃ name, v.node.name = .str name ∧ BreaksAt options name e
  | .enumUppercase => ∃ symbol ∈ v.node.symbols, BreaksAt options symbol e
  | .fieldNaming => ∃ f ∈ v.node.fields, BreaksAt options f.name e
  | _ => False

variable {refused : Failure → Prop}

theorem ends_isUndocumented (documentation : Json) :
    Ends refused (IsStrayDoc documentation) (isUndocumented documentation) := by
  unfold isUndocumented
  by_cases present : documentation.isTruthy = true
  · rw [if_neg (by simp [present])]
    cases documentation with
    | str s => exact .ok _ fun e h => h.2.1 s rfl
    | _ => exact .fault ⟨present, nofun, rfl⟩
  · rw [if_pos (by simpa using present)]
    exact .ok _ fun e h => present h.1

section

variable {options : Options} {text : String} {c : Convention}

/-- A match fails for a broken group only. -/
theorem eq_brokenGroup_of_accepts {name : String} {fault : Pattern.Fault}
    (h : c.accepts name = .error fault) : fault = .brokenGroup := by
  unfold Convention.accepts at h
  split at h
  · cases h
  · unfold Pattern.Expression.match? at h
    split at h
    · cases h
    · split at h
      · cases h
      · cases h
        rfl

/-- The options of a rule give a convention, whatever the default one is. -/
structure Gives (options : Options) (text : String) (c : Convention) : Prop where
  entry : Datum.textEntry? options "pattern" = some (.str text)
  made : Convention.ofText text = .ok c

theorem exists_gives (passed : OptionCheck.pattern.run options = .ok ()) :
    ∃ text c, Gives options text c := by
  unfold OptionCheck.run at passed
  cases entry : Datum.textEntry? options "pattern" with
  | none =>
    rw [entry] at passed
    cases passed
  | some value =>
    rw [entry] at passed
    cases value with
    | str text =>
      dsimp only [Option.getD_some] at passed
      split at passed
      · cases passed
      · obtain ⟨c, made, -⟩ := bind_eq_ok.mp passed
        exact ⟨text, c, entry, made⟩
    | _ => cases passed

theorem Gives.optionConvention (h : Gives options text c) (default : String) :
    optionConvention options default = .ok c := by
  unfold Lint.optionConvention
  rw [h.entry]
  dsimp only [Datum.text]
  rw [h.made]
  rfl

theorem Gives.breaksAt_iff (h : Gives options text c) {name : String} {e : Failure} :
    BreaksAt options name e ↔ c.accepts name = .error .brokenGroup ∧ e = .pattern .brokenGroup := by
  constructor
  · rintro ⟨other, d, entry, made, broken⟩
    rw [h.entry] at entry
    cases entry
    rw [h.made] at made
    cases made
    exact broken
  · exact fun broken => ⟨text, c, h.entry, h.made, broken⟩

theorem Gives.ends_accepts (h : Gives options text c) (name : String) :
    Ends refused (BreaksAt options name) (failMatch (c.accepts name)) := by
  cases run : c.accepts name with
  | ok follows =>
    refine .ok follows fun e broken => ?_
    rw [h.breaksAt_iff, run] at broken
    cases broken.1
  | error fault =>
    obtain rfl := eq_brokenGroup_of_accepts run
    exact .fault (h.breaksAt_iff.mpr ⟨run, rfl⟩)

theorem Gives.ends_nameFollows (h : Gives options text c) {name : Json}
    (named : name.isTextOrNull = true ∨ ∀ fault, refused (.type fault)) :
    Ends refused (fun e => ∃ s, name = .str s ∧ BreaksAt options s e) (nameFollows c name) := by
  cases name with
  | null => exact .ok false (by simp)
  | str s =>
    by_cases empty : s = ""
    · subst empty
      refine .ok false ?_
      rintro e ⟨s, same, broken⟩
      cases same
      cases (h.breaksAt_iff.mp broken).1
    · have present : (Json.str s).isTruthy = true := by simpa [Json.isTruthy] using empty
      unfold nameFollows
      rw [if_neg (by simp [present])]
      refine (h.ends_accepts s).congr fun e => ?_
      simp
  | _ =>
    obtain named | strange := named
    · cases named
    · unfold nameFollows
      split
      · exact .ok false (by simp)
      · exact .refuse (strange _)

end

/-! ### The rules -/

theorem ends_atFields {fields : List Field} {test : Field → Except Failure Bool}
    {message : Field → String} {causes : Field → Failure → Prop}
    (h : ∀ f ∈ fields, Ends refused (causes f) (test f)) :
    Ends refused (fun e => ∃ f ∈ fields, causes f e) (atFields fields test message) := by
  induction fields with
  | nil => exact .ok _ (by simp)
  | cons f rest ih =>
    rw [List.forall_mem_cons] at h
    have walk := h.1.bind fun found _ =>
      (ih h.2).then_ok (g := fun others =>
        (if found then [{ message := message f, path := [.name f.name] }] else []) ++ others)
        fun _ => rfl
    exact walk.congr fun e => by simp

section

variable {options : Options} {node : Schema}

theorem ends_checkDoc (node : Schema) (path : Path) :
    Ends refused (fun e => isAvroNamed node = true ∧ IsStrayDoc node.documentation e)
      (checkDoc node path) := by
  unfold checkDoc
  by_cases named : isAvroNamed node = true
  · rw [if_neg (by simp [named])]
    refine ((ends_isUndocumented node.documentation).followed fun missing e failed => ?_).congr
      fun e => by simp [named]
    cases missing with
    | false => cases failed
    | true =>
      rw [if_pos rfl] at failed
      split at failed <;> cases failed
  · rw [if_pos (by simpa using named)]
    exact .ok _ fun e h => named h.1

theorem ends_checkNaming {text : String} {c : Convention} (h : Gives options text c)
    (named : node.name.isTextOrNull = true ∨ ∀ fault, refused (.type fault)) :
    Ends refused (fun e => ∃ name, node.name = .str name ∧ BreaksAt options name e)
      (checkNaming node options) := by
  unfold checkNaming
  by_cases present : node.name.isTruthy = true
  · rw [if_neg (by simp [present]), h.optionConvention]
    refine (h.ends_nameFollows named).followed fun follows e failed => ?_
    split at failed <;> cases failed
  · rw [if_pos (by simpa using present)]
    refine .ok _ ?_
    rintro e ⟨name, same, broken⟩
    rw [same] at present
    obtain rfl : name = "" := by simpa [Json.isTruthy] using present
    cases (h.breaksAt_iff.mp broken).1

theorem ends_checkMessageNaming {text : String} {c : Convention} (h : Gives options text c)
    (named : node.name.isTextOrNull = true ∨ ∀ fault, refused (.type fault)) :
    Ends refused (fun e => ∃ name, node.name = .str name ∧ BreaksAt options name e)
      (checkMessageNaming node options) := by
  unfold checkMessageNaming
  rw [h.optionConvention]
  refine (h.ends_nameFollows named).followed fun follows e failed => ?_
  split at failed <;> cases failed

theorem ends_checkEnumSymbols {text : String} {c : Convention} (h : Gives options text c) :
    Ends refused (fun e => ∃ symbol ∈ node.symbols, BreaksAt options symbol e)
      (checkEnumSymbols node options) := by
  unfold checkEnumSymbols
  by_cases none : node.symbols = []
  · rw [if_pos (by simp [none]), none]
    exact .ok _ (by simp)
  · rw [if_neg (by simpa using none), h.optionConvention]
    exact (Ends.filterM fun symbol _ => (h.ends_accepts symbol).then_ok fun _ => rfl).then_ok
      fun _ => rfl

theorem ends_checkFieldNaming {text : String} {c : Convention} (h : Gives options text c) :
    Ends refused (fun e => ∃ f ∈ node.fields, BreaksAt options f.name e)
      (checkFieldNaming node options) := by
  unfold checkFieldNaming
  rw [h.optionConvention]
  exact ends_atFields fun f _ => (h.ends_accepts f.name).then_ok fun _ => rfl

theorem ends_checkDescription (node : Schema) :
    Ends refused (IsStrayDoc node.documentation) (checkDescription node) := by
  unfold checkDescription
  refine (ends_isUndocumented node.documentation).followed fun missing e failed => ?_
  split at failed <;> cases failed

end

/-- A rule that can use its options stops only for a cause of its own. -/
theorem ends_check {id : RuleId} {config : RuleConfig} (usable : config.IsUsable id)
    (d : Document) (v : Visit)
    (named : (id.rule.format ≠ .jsonSchema → v.node.name.isTextOrNull = true) ∨
      ∀ fault, refused (.type fault)) :
    Ends refused (id.Stops v config.options) (id.check d v config.options) := by
  have gives (checked : id.rule.optionCheck = some .pattern) :
      ∃ text c, Gives config.options text c := exists_gives (usable .pattern checked)
  cases id with
  | docRequired => exact ends_checkDoc v.node v.path
  | fieldDocRequired => exact ends_atFields fun f _ => ends_isUndocumented f.documentation
  | descriptionRequired => exact ends_checkDescription v.node
  | namingConvention =>
    obtain ⟨text, c, convention⟩ := gives rfl
    exact ends_checkNaming convention (named.imp_left fun text => text (by decide))
  | messageNaming =>
    obtain ⟨text, c, convention⟩ := gives rfl
    exact ends_checkMessageNaming convention (named.imp_left fun text => text (by decide))
  | enumUppercase =>
    obtain ⟨text, c, convention⟩ := gives rfl
    exact ends_checkEnumSymbols convention
  | fieldNaming =>
    obtain ⟨text, c, convention⟩ := gives rfl
    exact ends_checkFieldNaming convention
  | _ => exact .ok _ fun e => id

/-! ### The walk over a document -/

/-- An enabled rule of the document's language stops at a node that it applies to. -/
def StopsAt (rules : RuleSet) (d : Document) (e : Failure) : Prop :=
  ∃ v ∈ d.root.walk, ∃ rule ∈ activeRules rules d.format,
    rule.1.rule.applies v = true ∧ rule.1.Stops v rule.2.options e

theorem mem_activeRules {rules : RuleSet} {format : Format} {rule : RuleId × RuleConfig} :
    rule ∈ activeRules rules format ↔
      rule.1.rule.format = format ∧ rule.2 = rules.config rule.1 ∧ rule.2.enabled = true := by
  have listed (id : RuleId) : id ∈ RuleId.all := by cases id <;> decide
  unfold activeRules RuleId.ofFormat
  simp only [List.mem_filter, List.mem_map, beq_iff_eq]
  constructor
  · rintro ⟨⟨id, ⟨-, format⟩, rfl⟩, enabled⟩
    exact ⟨format, rfl, enabled⟩
  · obtain ⟨id, config⟩ := rule
    rintro ⟨format, config, enabled⟩
    exact ⟨⟨id, ⟨listed id, format⟩, congrArg (Prod.mk id) config.symm⟩, enabled⟩

theorem ends_ruleIssues {rule : RuleId × RuleConfig} (usable : rule.2.IsUsable rule.1)
    (d : Document) (v : Visit)
    (named : (rule.1.rule.format ≠ .jsonSchema → v.node.name.isTextOrNull = true) ∨
      ∀ fault, refused (.type fault)) :
    Ends refused (fun e => rule.1.rule.applies v = true ∧ rule.1.Stops v rule.2.options e)
      (ruleIssues d v rule) := by
  unfold ruleIssues
  by_cases applies : rule.1.rule.applies v = true
  · rw [if_pos applies]
    exact ((ends_check usable d v named).then_ok fun _ => rfl).congr fun e => by simp [applies]
  · rw [if_neg applies]
    exact .ok _ fun e h => applies h.1

/-- Linting stops only where a rule does, or at a name that is no text. -/
theorem ends_lint {rules : RuleSet} (usable : rules.IsUsable) (d : Document)
    (named : d.root.HasTextNames (d.format != .jsonSchema) ∨ ∀ fault, refused (.type fault)) :
    Ends refused (StopsAt rules d) (lint d rules) := by
  unfold lint
  refine Ends.then_ok (Ends.mapM fun v hv => ?_) fun _ => rfl
  refine Ends.then_ok (Ends.mapM fun rule hr => ?_) fun _ => rfl
  obtain ⟨format, config, -⟩ := mem_activeRules.mp hr
  refine ends_ruleIssues (config ▸ usable rule.1) d v (named.imp_left fun texts other => ?_)
  exact texts (by simpa [format] using other) v.node (List.mem_map_of_mem hv)

/-! ### Linting sources

A text that is refused with an error of parsing is reported as the result of its source. What else
can happen to a source stops the linting: a rule stops at a node of its document, or its text fails
for a property without a name. -/

instance : Inhabited LintResult := ⟨⟨"", none, false, []⟩⟩

/-- What the linting of a source stops for. -/
def StopsFor (rules : RuleSet) (s : Source) (e : Failure) : Prop :=
  (∃ d, s.parse = .ok d ∧ StopsAt rules d e) ∨ s.FailsNameless e

/-- The names in the document of a source are texts, unless they are titles. -/
theorem hasTextNames_of_source {s : Source} {d : Document} (h : s.parse = .ok d) :
    d.root.HasTextNames (d.format != .jsonSchema) := by
  obtain ⟨format, -, read⟩ := bind_eq_ok.mp h
  exact hasTextNames_of_parse read fun unlabelled => by
    simpa [format_of_parse read] using unlabelled

variable {rules : RuleSet} {strict : Bool}

theorem stopsFor_iff_of_parsed {s : Source} {d : Document} {e : Failure}
    (parsed : s.parse = .ok d) : StopsFor rules s e ↔ StopsAt rules d e := by
  simp [StopsFor, Source.not_failsNameless parsed nofun, parsed]

/-- A source that is refused with an error of parsing stops nothing. -/
theorem not_stopsFor_of_refused {s : Source} {error : ParseError} {e : Failure}
    (refused : s.parse = .error (.parse error)) : ¬ StopsFor rules s e := by
  rintro (⟨d, made, -⟩ | nameless)
  · rw [refused] at made
    cases made
  · exact Source.not_failsNameless refused nofun nameless

/-- The linting of a source stops only for a cause at it. -/
theorem ends_lintSource (usable : rules.IsUsable) (s : Source) :
    EndsFor (StopsFor rules s) (lintSource s rules strict) := by
  unfold lintSource
  obtain ⟨format, ⟨d, read, parsed⟩ | ⟨error, read, parsed⟩ | ⟨e, read, nameless⟩⟩ := s.read_outcome
  · rw [read]
    exact ((ends_lint usable d (.inl (hasTextNames_of_source parsed))).then_ok fun _ => rfl).congr
      fun e => (stopsFor_iff_of_parsed parsed).symm
  · rw [read]
    exact .ok _ fun e => not_stopsFor_of_refused parsed
  · rw [read]
    obtain ⟨-, -, rfl⟩ := id nameless
    exact .fault (.inr nameless)

theorem identifier_lintSource {s : Source} {r : LintResult}
    (h : lintSource s rules strict = .ok r) : r.identifier = s.identifier := by
  unfold lintSource at h
  split at h
  · split at h
    · cases h
      rfl
    · cases h
  · obtain ⟨issues, -, h⟩ := bind_eq_ok.mp h
    cases h
    rfl

theorem lintSources_value (sources : List Source) (rules : RuleSet) (strict : Bool) :
    (lintSources sources rules strict).value =
      (sources.mapM fun s => lintSource s rules strict).map fun results =>
        ⟨(BatchRecord.finalize (results.map LintResult.record)).map BatchRecord.payload,
          strict⟩ := by
  unfold lintSources
  cases sources.mapM fun s => lintSource s rules strict <;> rfl

/-- The linting of a batch stops only for a cause at one of its sources. -/
theorem batchEnds_lintSources (usable : rules.IsUsable) (sources : List Source) (strict : Bool) :
    BatchEnds LintResult.identifier LintReport.results (fun s => lintSource s rules strict)
      (StopsFor rules) sources (lintSources sources rules strict).value := by
  rw [lintSources_value]
  refine batchEnds_of_mapM LintResult.record (LintReport.mk · strict) ?_ ?_ ?_ ?_
  · exact fun _ => rfl
  · exact fun _ => ⟨rfl, rfl⟩
  · exact fun _ _ => identifier_lintSource
  · exact fun s _ => ends_lintSource usable s

end SchemaReview.Lint
