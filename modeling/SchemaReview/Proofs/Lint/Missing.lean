import SchemaReview.Proofs.Lint.RootOnly
import SchemaReview.Proofs.Protobuf.FileLines

/-!
# Missing declarations

That a file gives no syntax level or no package is noticed twice, by the reader, which warns, and by
a rule. The warning is dropped where the rule is enabled, and the rule reports nothing where it is
not, so one issue says it in every case.
-/
namespace SchemaReview.Lint

variable {d : Document} {rules : RuleSet} {issues : List Issue} {id : RuleId} {message : String}

/-- Whether a document lacks the declaration that a rule asks for. -/
def lacks (d : Document) : RuleId → Bool
  | .syntaxVersion => d.syntaxLevel.isNone
  | .packageRequired => d.package.isNone
  | _ => false

/-- How many issues have a message. -/
def countSaying (message : String) (issues : List Issue) : Nat :=
  issues.countP fun issue => issue.message == message

/-! ### What the rules say -/

/-- How the other messages on interface definitions start. -/
def otherOpenings : List String :=
  ["Expected syntax '", "Message '", "Enum '", "Field '", "Field numbers of message '"]

theorem coveringRule?_eq_some : coveringRule? message = some id ↔
    (message = Protobuf.missingSyntaxMessage ∧ id = .syntaxVersion) ∨
      (message = Protobuf.missingPackageMessage ∧ id = .packageRequired) := by
  have apart : Protobuf.missingPackageMessage ≠ Protobuf.missingSyntaxMessage := by decide
  unfold coveringRule?
  by_cases syntaxMissing : message = Protobuf.missingSyntaxMessage
  · subst syntaxMissing
    simp [apart.symm, eq_comm]
  · by_cases packageMissing : message = Protobuf.missingPackageMessage
    · subst packageMissing
      simp [apart, eq_comm]
    · simp [syntaxMissing, packageMissing]

/-- No other message is taken for one that a declaration is missing. -/
theorem not_opens_of_covered (covered : coveringRule? message = some id) :
    ∀ word ∈ otherOpenings, ¬ word.toList <+: message.toList := by
  obtain ⟨rfl, -⟩ | ⟨rfl, -⟩ := coveringRule?_eq_some.mp covered <;> decide

theorem prefix_append (word rest : String) : word.toList <+: (word ++ rest).toList := by
  rw [String.toList_append]
  exact List.prefix_append _ _

theorem message_of_atFields {fields : List Field} {test : Field → Except Failure Bool}
    {text : Field → String} {findings : List Finding}
    (h : atFields fields test text = .ok findings) :
    ∀ f ∈ findings, ∃ g, f.message = text g := by
  induction fields generalizing findings with
  | nil =>
    obtain rfl := pure_eq_ok.mp h
    exact nofun
  | cons g rest ih =>
    rw [atFields] at h
    obtain ⟨passes, -, h⟩ := bind_eq_ok.mp h
    obtain ⟨others, walked, h⟩ := bind_eq_ok.mp h
    obtain rfl := pure_eq_ok.mp h
    intro f hf
    rcases List.mem_append.mp hf with here | there
    · split at here
      · obtain rfl := List.mem_singleton.mp here
        exact ⟨g, rfl⟩
      · cases here
    · exact ih walked f there

theorem checkPackage_eq (named : d.package ≠ some "") :
    checkPackage d = if d.package.isNone then one Protobuf.missingPackageMessage else [] := by
  unfold checkPackage
  cases given : d.package with
  | none => rfl
  | some name =>
    have nonempty : name ≠ "" := by
      rintro rfl
      exact named given
    simp [nonempty]

/-- A rule on interface definitions says that a declaration is missing where it is, or says
something else. -/
theorem message_of_check {other : RuleId} (language : other.rule.format = .protobuf)
    (named : d.package ≠ some "") {v : Visit} {options : Options} {findings : List Finding}
    (h : other.check d v options = .ok findings) :
    ∀ f ∈ findings, (coveringRule? f.message = some other ∧ lacks d other = true) ∨
      ∃ word ∈ otherOpenings, word.toList <+: f.message.toList := by
  cases other with
  | packageRequired =>
    obtain rfl := Except.ok.inj h
    rw [checkPackage_eq named]
    split
    · rename_i missing
      exact List.forall_mem_singleton.mpr (.inl ⟨rfl, missing⟩)
    · exact nofun
  | syntaxVersion =>
    obtain rfl := Except.ok.inj h
    unfold checkSyntax
    cases given : d.syntaxLevel with
    | none => exact List.forall_mem_singleton.mpr (.inl ⟨rfl, by simp [lacks, given]⟩)
    | some level =>
      dsimp only
      split
      · exact nofun
      · simp only [one, List.forall_mem_singleton, String.append_assoc]
        exact .inr ⟨"Expected syntax '", by decide, prefix_append _ _⟩
  | messageNaming =>
    obtain ⟨c, -, h⟩ := bind_eq_ok.mp h
    obtain ⟨follows, -, h⟩ := bind_eq_ok.mp h
    split at h <;> obtain rfl := pure_eq_ok.mp h
    · exact nofun
    · simp only [one, List.forall_mem_singleton, String.append_assoc]
      exact .inr ⟨"Message '", by decide, prefix_append _ _⟩
  | enumZeroValue =>
    obtain rfl := Except.ok.inj h
    unfold checkEnumZero
    split
    · simp only [one, List.forall_mem_singleton, String.append_assoc]
      exact .inr ⟨"Enum '", by decide, prefix_append _ _⟩
    · exact nofun
  | fieldNaming =>
    obtain ⟨c, -, h⟩ := bind_eq_ok.mp h
    intro f hf
    obtain ⟨g, text⟩ := message_of_atFields h f hf
    simp only [text, String.append_assoc]
    exact .inr ⟨"Field '", by decide, prefix_append _ _⟩
  | fieldNumbersSequential =>
    obtain rfl := Except.ok.inj h
    unfold checkFieldNumbers
    dsimp only
    split
    · exact nofun
    · simp only [one, List.forall_mem_singleton, String.append_assoc]
      exact .inr ⟨"Field numbers of message '", by decide, prefix_append _ _⟩
  | _ => cases language

/-- Only the rule that covers a message reports it, and only if the declaration is missing. -/
theorem of_check_covered {other : RuleId} (covered : coveringRule? message = some id)
    (language : other.rule.format = .protobuf) (named : d.package ≠ some "") {v : Visit}
    {options : Options} {findings : List Finding}
    (h : other.check d v options = .ok findings) {f : Finding} (hf : f ∈ findings)
    (same : f.message = message) : other = id ∧ lacks d id = true := by
  subst same
  obtain ⟨own, missing⟩ | ⟨word, hw, opens⟩ := message_of_check language named h f hf
  · obtain rfl := Option.some.inj (own.symm.trans covered)
    exact ⟨rfl, missing⟩
  · exact absurd opens (not_opens_of_covered covered word hw)

theorem ruleId_of_message (ran : lint d rules = .ok issues)
    (covered : coveringRule? message = some id) (format : d.format = .protobuf)
    (named : d.package ≠ some "") :
    ∀ issue ∈ issues, issue.message = message → issue.ruleId = id.text := by
  intro issue hi same
  rw [eq_of_lint ran] at hi
  obtain ⟨v, -, hi⟩ := List.mem_flatMap.mp hi
  obtain ⟨other, ho, hi⟩ := List.mem_flatMap.mp hi
  obtain ⟨findings, checked, f, hf, rfl⟩ := exists_of_mem_ownIssues hi
  have language : other.rule.format = .protobuf := (mem_ofFormat.mp ho).trans format
  rw [← (of_check_covered covered language named checked hf same).1]
  rfl

/-- The rule that covers a message reports it once, if the declaration is missing. -/
theorem exists_check_covered (covered : coveringRule? message = some id)
    (named : d.package ≠ some "") (v : Visit) (options : Options) :
    ∃ findings, id.check d v options = .ok findings ∧
      (findings.countP fun f => f.message == message) = (lacks d id).toNat := by
  have language : id.rule.format = .protobuf := by
    obtain ⟨-, rfl⟩ | ⟨-, rfl⟩ := coveringRule?_eq_some.mp covered <;> rfl
  have made : ∃ findings, id.check d v options = .ok findings := by
    obtain ⟨-, rfl⟩ | ⟨-, rfl⟩ := coveringRule?_eq_some.mp covered <;> exact ⟨_, rfl⟩
  obtain ⟨findings, checked⟩ := made
  refine ⟨findings, checked, ?_⟩
  cases missing : lacks d id with
  | false =>
    refine List.countP_eq_zero.mpr fun f hf same => ?_
    have found := (of_check_covered covered language named checked hf (beq_iff_eq.mp same)).2
    rw [missing] at found
    cases found
  | true =>
    obtain ⟨rfl, rfl⟩ | ⟨rfl, rfl⟩ := coveringRule?_eq_some.mp covered
    · obtain rfl := Except.ok.inj checked
      rw [checkSyntax, Option.isNone_iff_eq_none.mp missing]
      rfl
    · obtain rfl := Except.ok.inj checked
      obtain missing : d.package.isNone = true := missing
      rw [checkPackage_eq named, if_pos missing]
      rfl

/-- A run says once that a declaration is missing, if the rule that covers the message is enabled
and the declaration is missing. -/
theorem countSaying_lint (ran : lint d rules = .ok issues)
    (covered : coveringRule? message = some id) (format : d.format = .protobuf)
    (root : d.root.kind = .file) (named : d.package ≠ some "") :
    countSaying message issues = if rules.isEnabled id then (lacks d id).toNat else 0 := by
  have onFiles : id.rule.format = .protobuf ∧ id.rule.rootOnly = true ∧
      id.rule.applies d.root.atStart = true := by
    obtain ⟨-, rfl⟩ | ⟨-, rfl⟩ := coveringRule?_eq_some.mp covered <;>
      simp [Rule.applies, RuleId.rule, Schema.atStart, root]
  obtain ⟨language, rootOnly, applies⟩ := onFiles
  have own : issuesOf id issues = ownIssues d id (rules.config id) d.root.atStart := by
    rw [issuesOf_eq_layers ran rootOnly, Schema.layers_of_not_wrapper (by simp [root])
      (by simp [root]), List.flatMap_singleton]
  have all : countSaying message issues = countSaying message (issuesOf id issues) := by
    unfold countSaying issuesOf
    rw [List.countP_filter]
    refine List.countP_congr fun issue hi => ?_
    have source := ruleId_of_message ran covered format named issue hi
    simp only [Bool.and_eq_true, beq_iff_eq]
    exact ⟨fun same => ⟨same, source same⟩, And.left⟩
  obtain ⟨findings, checked, counts⟩ :=
    exists_check_covered covered named d.root.atStart (rules.config id).options
  rw [all, own, ownIssues, checked]
  by_cases enabled : (rules.config id).enabled = true
  · rw [if_pos ⟨language.trans format.symm, enabled, applies⟩, RuleSet.isEnabled, if_pos enabled,
      ← counts, countSaying, List.countP_map]
    rfl
  · rw [if_neg fun all => enabled all.2.1, RuleSet.isEnabled, if_neg enabled]
    rfl

/-! ### What the reader warns about -/

theorem countP_warnings {text : String} (file : Protobuf.IsFileOf d text)
    (covered : coveringRule? message = some id) :
    countSaying message d.warnings = (lacks d id).toNat := by
  have counted : countSaying message d.warnings = (d.warnings.map Issue.message).count message := by
    rw [countSaying, List.count, List.countP_map]
    rfl
  rw [counted, file.warnings]
  obtain ⟨rfl, rfl⟩ | ⟨rfl, rfl⟩ := coveringRule?_eq_some.mp covered
  all_goals
    dsimp only [lacks]
    generalize d.syntaxLevel.isNone = noSyntax
    generalize d.package.isNone = noPackage
    cases noSyntax <;> cases noPackage <;> decide

/-- Warnings are kept where the rule that covers them is not enabled. -/
theorem countSaying_kept (rules : RuleSet) (covered : coveringRule? message = some id)
    (warnings : List Issue) :
    countSaying message (warnings.filter fun w => !isCovered rules w) =
      if rules.isEnabled id then 0 else countSaying message warnings := by
  have kept : ∀ w : Issue, w.message = message → isCovered rules w = rules.isEnabled id := by
    rintro w rfl
    simp [isCovered, covered]
  unfold countSaying
  rw [List.countP_filter]
  cases enabled : rules.isEnabled id with
  | true =>
    refine List.countP_eq_zero.mpr fun w _ both => ?_
    simp only [Bool.and_eq_true, beq_iff_eq, Bool.not_eq_true'] at both
    rw [kept w both.1, enabled] at both
    cases both.2
  | false =>
    refine List.countP_congr fun w _ => ?_
    simp only [Bool.and_eq_true, beq_iff_eq, Bool.not_eq_true']
    exact ⟨And.left, fun same => ⟨same, (kept w same).trans enabled⟩⟩

/-! ### Linting a source -/

theorem stopsForPatterns_of_protobuf (format : d.format = .protobuf) : StopsForPatterns d := by
  intro v _ id language options e
  rw [format] at language
  cases id with
  | messageNaming | fieldNaming | enumZeroValue | packageRequired | syntaxVersion
    | fieldNumbersSequential => simp [RuleId.Stops, RuleId.Tests]
  | _ => cases language

theorem isFileOf_of_source {s : Source} (parsed : s.parse = .ok d)
    (format : d.format = .protobuf) : Protobuf.IsFileOf d s.text := by
  obtain ⟨language, -, read⟩ := bind_eq_ok.mp parsed
  obtain rfl : language = .protobuf := (format_of_parse read).symm.trans format
  exact Protobuf.isFileOf_of_ofText (failParse_eq_ok.mp read)

/-- A missing declaration is reported once, and one that is there is not reported. -/
def IsReportedOnce (message : String) (missing : Prop) (issues : List Issue) : Prop :=
  (missing → countSaying message issues = 1) ∧ (¬ missing → countSaying message issues = 0)

theorem isReportedOnce_of_countSaying {missing : Prop} {lacking : Bool}
    (h : lacking = true ↔ missing) (counts : countSaying message issues = lacking.toNat) :
    IsReportedOnce message missing issues := by
  rw [IsReportedOnce, counts, ← h]
  cases lacking <;> simp

/-- The linting of an interface definition that can be read comes to its end, unless the pattern of
an enabled rule is broken, and whatever the rules, the result says once of each declaration that it
is missing, if it is. -/
theorem lintSource_missing {s : Source} (parsed : s.parse = .ok d) (format : d.format = .protobuf)
    (configured : IsConfigured rules) (strict : Bool) :
    (∃ r, lintSource s rules strict = .ok r ∧ ¬ HasBrokenPattern rules d ∧
      IsReportedOnce Protobuf.missingSyntaxMessage (¬ Protobuf.DeclaresSyntax s.text) r.issues ∧
      IsReportedOnce Protobuf.missingPackageMessage (¬ Protobuf.DeclaresPackage s.text)
        r.issues) ∨
    (lintSource s rules strict = .error (.pattern .brokenGroup) ∧ HasBrokenPattern rules d) := by
  have file := isFileOf_of_source parsed format
  obtain ⟨language, read⟩ := s.exists_read
  rw [parsed] at read
  unfold lintSource
  rw [read]
  dsimp only
  obtain ⟨⟨issues, ran⟩, sound⟩ | ⟨stopped, broken⟩ | ⟨-, unnamed⟩ :=
    lint_cases (stopsForPatterns_of_protobuf format) configured.isUsable
  · have counts {message id} (covered : coveringRule? message = some id) :
        countSaying message (issues ++ d.warnings.filter fun w => !isCovered rules w) =
          (lacks d id).toNat := by
      have first := countSaying_lint ran covered format file.root file.named
      have rest := countSaying_kept rules covered d.warnings
      rw [countP_warnings file covered] at rest
      unfold countSaying at first rest ⊢
      rw [List.countP_append, first, rest]
      split <;> simp
    refine .inl ⟨_, by rw [ran]; rfl, sound, ?_, ?_⟩
    · exact isReportedOnce_of_countSaying (Option.isNone_iff_eq_none.trans file.syntaxLevel)
        (counts (coveringRule?_eq_some.mpr (.inl ⟨rfl, rfl⟩)))
    · exact isReportedOnce_of_countSaying (Option.isNone_iff_eq_none.trans file.package)
        (counts (coveringRule?_eq_some.mpr (.inr ⟨rfl, rfl⟩)))
  · exact .inr ⟨by rw [stopped]; rfl, broken⟩
  · exact absurd (hasTextNames_of_source parsed) unnamed

/-- A file that names its package and holds nothing else. -/
def packageSource : Source := { text := "package ba;", format := some .protobuf }

def packageDocument : Document :=
  Protobuf.documentWith [.statement "package ba".toList 0] []

theorem parse_packageSource : packageSource.parse = .ok packageDocument := by
  have plain : Protobuf.stripComments "package ba;".toList = "package ba;".toList := by
    decide +kernel
  have scanned : Protobuf.scan (Protobuf.stripComments "package ba;".toList) =
      .ok [.statement "package ba".toList 0] := by
    rw [plain]
    rfl
  refine failParse_eq_ok.mpr (Protobuf.ofText_eq_ok.mpr ⟨by decide +kernel, _, _, scanned, ?_, rfl⟩)
  rw [Protobuf.declarationsOf, Protobuf.declarationsOf]

theorem lintSource_missing_package :
    packageSource.parse = .ok packageDocument ∧ packageDocument.format = .protobuf ∧
      IsConfigured .defaults ∧ ¬ Protobuf.DeclaresSyntax packageSource.text ∧
      Protobuf.DeclaresPackage packageSource.text ∧
      ∃ r, lintSource packageSource .defaults false = .ok r ∧
        countSaying Protobuf.missingSyntaxMessage r.issues = 1 ∧
        countSaying Protobuf.missingPackageMessage r.issues = 0 := by
  have file := isFileOf_of_source parse_packageSource rfl
  have noSyntax : ¬ Protobuf.DeclaresSyntax packageSource.text := file.syntaxLevel.mp rfl
  have package : Protobuf.DeclaresPackage packageSource.text := by
    by_contra unnamed
    cases file.package.mpr unnamed
  have whole : ¬ HasBrokenPattern .defaults packageDocument := by
    rintro ⟨v, hv, id, -, -, -, name, tests, -⟩
    obtain rfl : v = packageDocument.root.atStart := List.mem_singleton.mp hv
    cases id with
    | namingConvention | messageNaming | enumUppercase => cases tests
    | fieldNaming =>
      obtain ⟨f, hf, -⟩ := tests
      cases hf
    | _ => exact tests
  refine ⟨parse_packageSource, rfl, .defaults, noSyntax, package, ?_⟩
  obtain ⟨r, ran, -, syntaxOnce, packageOnce⟩ | ⟨-, broken⟩ :=
    lintSource_missing parse_packageSource rfl .defaults false
  · exact ⟨r, ran, syntaxOnce.1 noSyntax, packageOnce.2 (not_not_intro package)⟩
  · exact absurd broken whole

/-- A file with one message and nothing that it says about itself. -/
def bareSource : Source := { text := "message ba \x7b \x7d", format := some .protobuf }

def bareDocument : Document :=
  let message : Schema := { kind := .message, name := .str "ba" }
  Protobuf.documentWith [.block "message ba".toList 11 []]
    [{ name := "ba", type := message, raw := some "message ba" }]

theorem parse_bareSource : bareSource.parse = .ok bareDocument := by
  have plain : Protobuf.stripComments bareSource.text.toList = bareSource.text.toList := by
    decide +kernel
  have scanned : Protobuf.scan (Protobuf.stripComments bareSource.text.toList) =
      .ok [.block "message ba".toList 11 []] := by
    rw [plain]
    rfl
  have header : Protobuf.blockHeader? "message ba".toList = some ("message", "ba".toList) := rfl
  refine failParse_eq_ok.mpr
    (Protobuf.ofText_eq_ok.mpr ⟨by decide +kernel, _, _, scanned, ?_, rfl⟩)
  rw [Protobuf.declarationsOf, header]
  dsimp only
  rw [if_pos rfl]
  simp only [Protobuf.declarationsOf]
  rfl

/-- The pattern of one rule keeps back that the syntax level is missing. -/
theorem brokenPattern_hidesMissing :
    bareSource.parse = .ok bareDocument ∧ bareDocument.format = .protobuf ∧
      IsConfigured (patternRules .messageNaming brokenPattern) ∧
      ¬ Protobuf.DeclaresSyntax bareSource.text ∧
      ¬ ∃ r, lintSource bareSource (patternRules .messageNaming brokenPattern) false = .ok r ∧
        countSaying Protobuf.missingSyntaxMessage r.issues = 1 := by
  have stopped : (lint bareDocument
      (patternRules .messageNaming brokenPattern)).isOk = false := by
    decide +kernel
  refine ⟨parse_bareSource, rfl, isConfigured_brokenPattern rfl, ?_, ?_⟩
  · exact (isFileOf_of_source parse_bareSource rfl).syntaxLevel.mp rfl
  · rintro ⟨r, ran, -⟩
    obtain ⟨format, read⟩ := bareSource.exists_read
    rw [parse_bareSource] at read
    unfold lintSource at ran
    rw [read] at ran
    obtain ⟨issues, made, -⟩ := bind_eq_ok.mp ran
    rw [made] at stopped
    cases stopped

end SchemaReview.Lint
