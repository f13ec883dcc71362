import SchemaReview.Lint.Engine
import SchemaReview.Lint.Result
import SchemaReview.Source.FileTree

/-!
# Linting a batch of schemas

Each source is parsed and linted on its own; one that cannot be read is reported with a single
error. What the parser warns about is kept, unless an enabled rule reports the same.
-/
namespace SchemaReview.Lint

/-- The rule that reports what a warning of the parser says. -/
def coveringRule? (message : String) : Option RuleId :=
  if message = Protobuf.missingSyntaxMessage then some .syntaxVersion
  else if message = Protobuf.missingPackageMessage then some .packageRequired
  else none

/-- Whether an enabled rule reports what a warning of the parser says. -/
def isCovered (rules : RuleSet) (warning : Issue) : Bool :=
  match coveringRule? warning.message with
  | some id => rules.isEnabled id
  | none => false

/-- Where a text is at fault. -/
def faultPath : Failure → Path
  | .parse e => e.path
  | _ => []

/-- The result of linting one source. -/
def lintSource (s : Source) (rules : RuleSet) (strict : Bool) : Except Failure LintResult :=
  match s.read with
  | (format, .error f) =>
    if f.isSchemaFailure then
      .ok ((⟨s.identifier, format, strict, []⟩ : LintResult).addError f.message parseRule
        (faultPath f))
    else .error f
  | (format, .ok d) => do
    let issues ← lint d rules
    return ⟨s.identifier, format, strict, issues ++ d.warnings.filter fun w => !isCovered rules w⟩

/-- The report on a batch of sources. -/
def lintSources (sources : List Source) (rules : RuleSet) (strict : Bool) :
    Logged (Except Failure LintReport) := do
  match sources.mapM fun s => lintSource s rules strict with
  | .error f => return .error f
  | .ok results =>
    let records := BatchRecord.finalize (results.map LintResult.record)
    let report : LintReport := ⟨records.map (·.payload), strict⟩
    Logged.tell .info .lint ("Linted " ++ toString report.results.length ++ " schemas: " ++
      toString report.passedCount ++ " passed, " ++ toString report.failedCount ++ " failed (" ++
      toString report.errorCount ++ " errors, " ++ toString report.warningCount ++ " warnings)")
    return .ok report

/-- The sources in files, and the results of those that cannot be read, each of which is logged. -/
def readSources (t : FileTree) (strict : Bool) : List String →
    Logged (Except Failure (List Source × List LintResult))
  | [] => return .ok ([], [])
  | path :: rest =>
    match Source.ofFile t (PosixPath.ofText path) none with
    | .ok source => do
      match ← readSources t strict rest with
      | .error f => return .error f
      | .ok (sources, unreadable) => return .ok (source :: sources, unreadable)
    | .error f =>
      if !f.isSchemaFailure then return .error f
      else do
        Logged.tell .error .lint f.message
        let result := (⟨path, none, strict, []⟩ : LintResult).addError f.message parseRule []
        match ← readSources t strict rest with
        | .error f => return .error f
        | .ok (sources, unreadable) => return .ok (sources, result :: unreadable)

/-- The report on some files. One that cannot be read is reported with a single error. -/
def lintFiles (t : FileTree) (paths : List String) (rules : RuleSet) (strict : Bool) :
    Logged (Except Failure LintReport) := do
  match ← readSources t strict paths with
  | .error f => return .error f
  | .ok (sources, unreadable) =>
    match ← lintSources sources rules strict with
    | .error f => return .error f
    | .ok report =>
      return .ok (if unreadable.isEmpty then report else report.withUnreadable unreadable)

end SchemaReview.Lint
