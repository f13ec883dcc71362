import SchemaReview.Batch
import SchemaReview.Log
import SchemaReview.Source.FileTree
import SchemaReview.Validation.Check

/-!
# Validating a batch of schemas
-/
namespace SchemaReview

structure ValidationResult where
  identifier : String
  format : Option Format := none
  error : Option String := none
  warnings : List Issue := []
deriving Repr

namespace ValidationResult

def valid (r : ValidationResult) : Bool := r.error.isNone

def status (r : ValidationResult) : String := if r.valid then "valid" else "invalid"

/-- The result as plain data. -/
def toJson (r : ValidationResult) : Json :=
  .obj [("path", .str r.identifier), ("status", .str r.status),
    ("format", Json.ofOption (fun f => .str f.text) r.format),
    ("error", Json.ofOption .str r.error), ("warnings", .arr (r.warnings.map Issue.toJson))]

def record (r : ValidationResult) : BatchRecord ValidationResult :=
  ⟨r.identifier, r.valid, r.warnings.map .issue, r⟩

end ValidationResult

structure ValidationReport where
  results : List ValidationResult
deriving Repr

namespace ValidationReport

def invalidCount (r : ValidationReport) : Nat := r.results.countP fun v => !v.valid

/-- A batch succeeds if it has schemas and all of them are valid. -/
def status (r : ValidationReport) : Status :=
  if r.results.isEmpty || r.invalidCount ≠ 0 then .failure else .success

def ok (r : ValidationReport) : Bool := r.status != .failure

/-- The report as plain data. -/
def toJson (r : ValidationReport) : Json :=
  .obj [("operation", .str "validate"), ("status", .str r.status.text),
    ("summary", .obj [("total", .int r.results.length),
      ("valid", .int (r.results.countP (·.valid))), ("invalid", .int r.invalidCount)]),
    ("results", .arr (r.results.map ValidationResult.toJson))]

end ValidationReport

/-- The validation of one source. A text that cannot be read is invalid. -/
def validateSource (s : Source) : Except Failure ValidationResult :=
  match s.read with
  | (format, .error f) =>
    if f.isSchemaFailure then .ok ⟨s.identifier, format, some f.message, []⟩ else .error f
  | (format, .ok d) => do
    return ⟨s.identifier, format, ← structuralError d s.text, d.warnings⟩

/-- The validation of one source, with a record if it is invalid. -/
def validateLogged (s : Source) : Logged (Except Failure ValidationResult) := do
  match validateSource s with
  | .error f => return .error f
  | .ok result =>
    match result.error with
    | some reason =>
      Logged.tell .warning .validation
        ("Validation failed for " ++ result.identifier ++ ": " ++ reason)
      return .ok result
    | none => return .ok result

/-- The validation of a batch of sources. -/
def validateSources (sources : List Source) : Logged (Except Failure ValidationReport) := do
  match ← Logged.collect validateLogged sources with
  | .error f => return .error f
  | .ok results =>
    let records := BatchRecord.finalize (results.map ValidationResult.record)
    let report : ValidationReport := ⟨records.map (·.payload)⟩
    if sources.isEmpty then Logged.tell .error .validation "No schemas to validate"
    else
      Logged.tell .info .validation ("Validated " ++ toString report.results.length ++
        " schemas: " ++ toString report.invalidCount ++ " invalid")
    return .ok report

/-- The sources in files, and the results of those that cannot be read. -/
def readFound (t : FileTree) (format : Option String) : List PosixPath →
    Except Failure (List Source × List ValidationResult)
  | [] => .ok ([], [])
  | path :: rest =>
    match Source.ofFile t path format with
    | .ok source => do
      let (sources, unreadable) ← readFound t format rest
      return (source :: sources, unreadable)
    | .error f =>
      if !f.isSchemaFailure then .error f
      else do
        let (sources, unreadable) ← readFound t format rest
        return (sources, ⟨path.text, none, some f.message, []⟩ :: unreadable)

/-- The validation of the schema files that some paths stand for. -/
def validateFiles (t : FileTree) (paths : List String) (format : Option String) :
    Logged (Except Failure ValidationReport) := do
  match ← findSchemaFiles t paths format with
  | .error f => return .error f
  | .ok found =>
    match readFound t format found with
    | .error f => return .error f
    | .ok (sources, unreadable) =>
      match ← validateSources sources with
      | .error f => return .error f
      | .ok report =>
        let results := report.results ++ unreadable
        return .ok (if unreadable.isEmpty then report
          else ⟨results.mergeSort fun a b => a.identifier ≤ b.identifier⟩)

end SchemaReview
