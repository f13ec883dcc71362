import SchemaReview.Batch
import SchemaReview.Compatibility.Check
import SchemaReview.Subject

/-!
# Checking a batch of candidates

Each source is parsed and checked against the registered versions of its subject. A source that
cannot be parsed or named is reported as incompatible, with the reason, and the rest still runs.
-/
namespace SchemaReview

structure CompatibilityReport where
  results : List CheckResult
deriving Repr

namespace CompatibilityReport

def compatibleCount (r : CompatibilityReport) : Nat := r.results.countP (·.compatible)

def status (r : CompatibilityReport) : Status :=
  if r.results.all (·.compatible) then .success else .failure

def ok (r : CompatibilityReport) : Bool := r.status != .failure

/-- The report as plain data. -/
def toJson (r : CompatibilityReport) : Json :=
  .obj [("operation", .str "check-compatibility"), ("status", .str r.status.text),
    ("summary", .obj [("total", .int r.results.length), ("compatible", .int r.compatibleCount),
      ("incompatible", .int (r.results.length - r.compatibleCount : Nat))]),
    ("results", .arr (r.results.map CheckResult.toJson))]

end CompatibilityReport

/-- Registered versions by subject. -/
abbrev Registrations := List (String × List PriorVersion)

/-- The check of one source, with failures. -/
def checkParsed (source : Source) (registered : Registrations) (mode : Mode) :
    Logged (Except Failure CheckResult) :=
  match source.parse with
  | .error f => return .error f
  | .ok document =>
    match source.subject document with
    | .error f => return .error f
    | .ok subject =>
      checkCompatible (.document document) ((registered.lookup subject).getD []) mode subject

/-- The check of one source. Failures that its content explains become its result. -/
def checkSource (source : Source) (registered : Registrations) (mode : Mode) :
    Logged (Except Failure CheckResult) := do
  let place := source.path.map PosixPath.text
  match ← checkParsed source registered mode with
  | .ok result => return .ok { result with source := place }
  | .error f =>
    if f.isSchemaFailure || f.isValueFailure then
      Logged.tell .error .check
        ("Failed to check " ++ source.identifier ++ ": " ++ f.message)
      return .ok ⟨source.identifier, .incompatible, mode, [], [], place, some f.message⟩
    else return .error f

/-- The record of a checked source. -/
def CheckResult.record (r : CheckResult) : BatchRecord CheckResult :=
  ⟨r.identifier, r.compatible, r.entries.map fun e => .value e.toJson, r⟩

/-- The check of a batch of sources in one mode. -/
def checkAll (sources : List Source) (registered : Registrations) (mode : Mode) :
    Logged (Except Failure CompatibilityReport) := do
  match ← Logged.collect (fun s => checkSource s registered mode) sources with
  | .error f => return .error f
  | .ok results =>
    let records := BatchRecord.finalize (results.map CheckResult.record)
    let report : CompatibilityReport := ⟨records.map (·.payload)⟩
    Logged.tell .info .check ("Compatibility check finished (" ++ mode.text ++ "): " ++
      toString report.compatibleCount ++ "/" ++ toString report.results.length ++ " compatible")
    return .ok report

/-- The check of a batch of sources in the requested mode, or else in the registry's. -/
def checkSources (sources : List Source) (registered : Registrations)
    (requested registryConfig : Json) : Logged (Except Failure CompatibilityReport) :=
  match resolveMode requested registryConfig with
  | .error f => return .error f
  | .ok mode => checkAll sources registered mode

end SchemaReview
