import SchemaReview.Issue

/-!
# Batches

The outcomes of the items of a batch are recorded as they arrive and reported in the order of the
items' identifiers; items of one identifier keep the order in which they were recorded.
-/
namespace SchemaReview

/-- How a whole batch ended. -/
inductive Status where
  | success
  | warning
  | failure
deriving DecidableEq, Repr

def Status.text : Status → String
  | .success => "success"
  | .warning => "warning"
  | .failure => "failure"

/-- What was found about an item. -/
inductive BatchEntry where
  | issue (i : Issue)
  | value (v : Json)
deriving Repr

structure BatchRecord (ρ : Type) where
  identifier : String
  passed : Bool
  entries : List BatchEntry := []
  payload : ρ
deriving Repr

namespace BatchRecord

variable {ρ : Type}

/-- The records of a batch in the order in which they are reported. -/
def finalize (records : List (BatchRecord ρ)) : List (BatchRecord ρ) :=
  records.mergeSort fun a b => a.identifier ≤ b.identifier

/-- The issues among the entries of a batch. -/
def issues (records : List (BatchRecord ρ)) : List Issue :=
  records.flatMap fun r => r.entries.filterMap fun e =>
    match e with
    | .issue i => some i
    | .value _ => none

end BatchRecord

/-- The number of issues of a severity. -/
def countSeverity (issues : List Issue) (severity : Severity) : Nat :=
  issues.countP fun i => i.severity == severity

/-- The counts of a batch as plain data. Issues are counted only if there are any. -/
def batchSummary {ρ : Type} (records : List (BatchRecord ρ)) : Json :=
  let passed := records.countP (·.passed)
  let issues := BatchRecord.issues records
  let counts := if issues.isEmpty then [] else
    [("errors", Json.int (countSeverity issues .error)),
      ("warnings", Json.int (countSeverity issues .warning))]
  .obj ([("total", .int records.length), ("passed", .int passed),
    ("failed", .int (records.length - passed : Nat))] ++ counts)

end SchemaReview
