import SchemaReview.Compatibility.Batch
import SchemaReview.Lint.Batch
import SchemaReview.Lint.RuleFile
import SchemaReview.Log.Routing
import SchemaReview.Validation.Batch

/-!
# Settings

What the environment fixes for all batches: where the log goes, whether warnings count as failures,
how compatibility is checked, how many workers there are, and which rule file applies.
-/
namespace SchemaReview

structure Settings where
  logLevel : String := "INFO"
  printLevel : String := "WARNING"
  strict : Bool := false
  /-- The compatibility mode; without one the registry's counts. -/
  compatibilityLevel : Option String := none
  workers : Nat := 1
  rulesFile : Option String := none
deriving Repr

namespace Settings

/-- What the names of the environment's variables start with. -/
def variableStart : String := "SCHEMA_INTELLIGENCE_"

/-- A variable of the environment. -/
def setting? (environment : List (String × String)) (name : String) : Option String :=
  environment.lookup (variableStart ++ name)

/-- A text that is not empty. -/
def nonempty (s : Option String) : Option String := s.filter (· ≠ "")

/-- The number of workers that a text spells, at least one. -/
def workersOf (text : String) : Except Failure Nat :=
  match Text.integerValue? text.toList with
  | some n => .ok (max 1 n).toNat
  | none => .error (.value (.notAnInteger (Text.quoted text)))

/-- The settings that the environment makes. -/
def ofEnvironment (environment : List (String × String)) : Except Failure Settings := do
  let value (name : String) : Option String := setting? environment name
  return {
    logLevel := (value "LOG_LEVEL").getD "INFO"
    printLevel := (value "PRINT_LEVEL").getD "WARNING"
    strict := Text.lower ((value "STRICT").getD "false") = "true"
    compatibilityLevel := nonempty (value "COMPATIBILITY_LEVEL")
    workers := ← workersOf ((value "MAX_WORKERS").getD "1")
    rulesFile := nonempty (value "RULES_FILE") }

/-- The settings as plain data. -/
def toJson (s : Settings) : Json :=
  .obj [("log_level", .str s.logLevel), ("print_level", .str s.printLevel),
    ("strict", .bool s.strict),
    ("compatibility_level", Json.ofOption .str s.compatibilityLevel),
    ("max_workers", .int s.workers), ("rules_file", Json.ofOption .str s.rulesFile)]

/-- Where the records of the program go. -/
def routing (s : Settings) : Log.Routing where
  logger := "schema_intelligence"
  threshold := Log.configuredLevel s.logLevel 20
  errorLevel := Log.configuredLevel s.printLevel 30

def rulesPath (s : Settings) : Option PosixPath := s.rulesFile.map PosixPath.ofText

/-- The default rules with the rule file applied. -/
def ruleSet (s : Settings) (t : FileTree) : Logged (Except Failure Lint.RuleSet) :=
  Lint.RuleSet.defaults.withFile t s.rulesPath

/-- The rule file; without one there are no overrides. -/
def ruleFile (s : Settings) (t : FileTree) : Logged (Except Failure Lint.RuleFile) :=
  match s.rulesPath with
  | none => return .ok {}
  | some path => Lint.RuleFile.load t path

/-- The report on linting a batch, which is strict if the environment or the rule file says so. -/
def lint (s : Settings) (t : FileTree) (sources : List Source) :
    Logged (Except Failure Lint.LintReport) := do
  match ← s.ruleFile t with
  | .error f => return .error f
  | .ok file =>
    match ← Lint.mergeOverrides .defaults (.mapping file.overrides) with
    | .error f => return .error f
    | .ok rules => Lint.lintSources sources rules (s.strict || file.strict = some true)

/-- The report on checking a batch against the registered versions. -/
def check (s : Settings) (sources : List Source) (registered : Registrations)
    (registryConfig : Json) : Logged (Except Failure CompatibilityReport) :=
  checkSources sources registered (Json.ofOption .str s.compatibilityLevel) registryConfig

end Settings
end SchemaReview
