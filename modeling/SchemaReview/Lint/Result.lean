import SchemaReview.Batch
import SchemaReview.Schema.Kind

/-!
# Results of linting

An item fails if it has errors, and in strict mode also if it has warnings.
-/
namespace SchemaReview.Lint

/-- The rule under which texts that cannot be read are reported. -/
def parseRule : String := "parse"

structure LintResult where
  identifier : String
  format : Option Format := none
  strict : Bool := false
  issues : List Issue := []
deriving Repr

namespace LintResult

/-- The result with issues added at its end. -/
def extend (r : LintResult) (issues : List Issue) : LintResult :=
  { r with issues := r.issues ++ issues }

def addError (r : LintResult) (message : String) (rule : String) (path : Path) : LintResult :=
  r.extend [⟨rule, .error, message, path⟩]

def addWarning (r : LintResult) (message : String) (rule : String) (path : Path) : LintResult :=
  r.extend [⟨rule, .warning, message, path⟩]

def errorCount (r : LintResult) : Nat := countSeverity r.issues .error

def warningCount (r : LintResult) : Nat := countSeverity r.issues .warning

def passed (r : LintResult) : Bool := r.errorCount == 0 && !(r.strict && r.warningCount != 0)

def status (r : LintResult) : String := if r.passed then "passed" else "failed"

/-- The result as plain data. -/
def toJson (r : LintResult) : Json :=
  .obj [("identifier", .str r.identifier),
    ("format", Json.ofOption (fun f => .str f.text) r.format), ("status", .str r.status),
    ("errors", .int r.errorCount), ("warnings", .int r.warningCount),
    ("issues", .arr (r.issues.map Issue.toJson))]

def record (r : LintResult) : BatchRecord LintResult :=
  ⟨r.identifier, r.passed, r.issues.map .issue, r⟩

end LintResult

structure LintReport where
  results : List LintResult
  strict : Bool := false
deriving Repr

namespace LintReport

def passedCount (r : LintReport) : Nat := r.results.countP (·.passed)

def failedCount (r : LintReport) : Nat := r.results.length - r.passedCount

def errorCount (r : LintReport) : Nat := r.results.foldl (fun count x => count + x.errorCount) 0

def warningCount (r : LintReport) : Nat := r.results.foldl (fun count x => count + x.warningCount) 0

def status (r : LintReport) : Status := if r.failedCount = 0 then .success else .failure

def ok (r : LintReport) : Bool := r.status != .failure

/-- The first result of an item. -/
def resultFor (r : LintReport) (identifier : String) : Option LintResult :=
  r.results.find? fun x => x.identifier == identifier

/-- The report as plain data. -/
def toJson (r : LintReport) : Json :=
  .obj [("operation", .str "lint"), ("status", .str r.status.text), ("strict", .bool r.strict),
    ("summary", .obj [("total", .int r.results.length), ("passed", .int r.passedCount),
      ("failed", .int r.failedCount), ("warnings", .int r.warningCount),
      ("errors", .int r.errorCount)]),
    ("results", .arr (r.results.map LintResult.toJson))]

/-- The results of a batch with those of items that could not be read. -/
def withUnreadable (r : LintReport) (unreadable : List LintResult) : LintReport :=
  { r with results := (r.results ++ unreadable).mergeSort fun a b => a.identifier ≤ b.identifier }

end LintReport
end SchemaReview.Lint
