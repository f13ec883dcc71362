import SchemaReview.Batch
import SchemaReview.Registry.Snapshot
import SchemaReview.Schema.Fingerprint

/-!
# Comparing two registries

Which subjects only one registry has, and for those that both have, whether they have as many
versions and whether the latest ones differ. Latest versions with the same fingerprint are taken to
be the same.
-/
namespace SchemaReview

/-- What a comparison looks at. -/
inductive CompareMode where
  | all
  | subjects
  | schemas
  | versions
deriving DecidableEq, Repr

namespace CompareMode

def text : CompareMode → String
  | .all => "all"
  | .subjects => "subjects"
  | .schemas => "schemas"
  | .versions => "versions"

def ofText? (s : String) : Option CompareMode :=
  let key := Text.lower (Text.strip s)
  [CompareMode.all, .subjects, .schemas, .versions].find? fun m => m.text == key

/-- The mode that a value names. -/
def ofJson (value : Json) : Except Failure CompareMode :=
  match ofText? value.toText with
  | some m => .ok m
  | none => .error (.value (.unknownCompareMode value.toText))

def comparesVersions (m : CompareMode) : Bool := m == .all || m == .versions

def comparesSchemas (m : CompareMode) : Bool := m == .all || m == .schemas

end CompareMode

/-- The differences between the latest versions of a subject that both registries have. -/
structure SubjectDiff where
  subject : String
  entries : List DiffEntry
  source : RegisteredVersion
  target : RegisteredVersion
  /-- Whether the texts of both versions are reported. -/
  withContent : Bool
deriving Repr

namespace SubjectDiff

def breaking (d : SubjectDiff) : Bool := hasBreaking d.entries

/-- One side of a difference as plain data. -/
def sideJson (withContent : Bool) (v : RegisteredVersion) : Json :=
  .obj ([("id", v.id), ("version", .int v.version)] ++
    (if withContent then Json.present "schema" (Json.ofOption .str v.raw) else []))

def toJson (d : SubjectDiff) : Json :=
  .obj [("subject", .str d.subject), ("type", .str "schema_content_mismatch"),
    ("breaking", .bool d.breaking), ("source", sideJson d.withContent d.source),
    ("target", sideJson d.withContent d.target), ("entries", .arr (d.entries.map DiffEntry.toJson))]

end SubjectDiff

structure RegistryReport where
  onlyInSource : List String
  onlyInTarget : List String
  common : List String
  versionMismatches : List DiffEntry
  schemaDiffs : List SubjectDiff
  failed : List LoadFailure
  mode : Mode
  compareMode : CompareMode
deriving Repr

namespace RegistryReport

def hasBreaking (r : RegistryReport) : Bool := r.schemaDiffs.any (·.breaking)

def totalDifferences (r : RegistryReport) : Nat :=
  r.onlyInSource.length + r.onlyInTarget.length + r.schemaDiffs.length + r.versionMismatches.length

def status (r : RegistryReport) : Status :=
  if !r.failed.isEmpty || r.hasBreaking then .failure
  else if r.totalDifferences ≠ 0 then .warning
  else .success

def ok (r : RegistryReport) : Bool := r.status != .failure

def summaryJson (r : RegistryReport) : Json :=
  let count (n : Nat) : Json := .int n
  .obj [("only_in_source", count r.onlyInSource.length),
    ("only_in_target", count r.onlyInTarget.length), ("common_subjects", count r.common.length),
    ("schema_differences", count r.schemaDiffs.length),
    ("version_differences", count r.versionMismatches.length),
    ("failed_subjects", count (r.failed.map (·.subject)).eraseDups.length),
    ("total_differences", count r.totalDifferences)]

/-- The report as plain data. -/
def toJson (r : RegistryReport) : Json :=
  let texts (xs : List String) : Json := .arr (xs.map .str)
  .obj [("operation", .str "compare"), ("status", .str r.status.text), ("mode", .str r.mode.text),
    ("compare_mode", .str r.compareMode.text), ("summary", r.summaryJson),
    ("subjects", .obj [("only_in_source", texts r.onlyInSource),
      ("only_in_target", texts r.onlyInTarget), ("common", texts r.common)]),
    ("versions", .arr (r.versionMismatches.map DiffEntry.toJson)),
    ("schemas", .arr (r.schemaDiffs.map SubjectDiff.toJson)),
    ("failed", .arr (r.failed.map LoadFailure.toJson))]

end RegistryReport

/-- A loaded registry with what its export held. -/
structure LoadedRegistry where
  exported : List (String × SubjectEntries)
  snapshot : Snapshot
deriving Repr

namespace LoadedRegistry

def subjects (r : LoadedRegistry) : List String := r.snapshot.subjects.map (·.1)

/-- The number of entries of a subject, those that could not be read included. -/
def entryCount (r : LoadedRegistry) (subject : String) : Nat :=
  match (r.exported.lookup subject).map SubjectEntries.toEntries with
  | some (.ok entries) => entries.length
  | _ => 0

/-- The latest version of a subject. -/
def latest (r : LoadedRegistry) (subject : String) : Option RegisteredVersion :=
  (r.snapshot.subjects.lookup subject).bind latestVersion

end LoadedRegistry

def sortTexts (texts : List String) : List String := texts.mergeSort fun a b => a ≤ b

/-- The entry for a subject with different numbers of versions. -/
def versionMismatch? (source target : LoadedRegistry) (subject : String) : Option DiffEntry :=
  let before := source.entryCount subject
  let after := target.entryCount subject
  if before = after then none
  else some {
    kind := .versionCountMismatch
    path := [.name subject]
    before := .int before
    after := .int after
    message := "Subject '" ++ subject ++ "' has " ++ toString before ++
      " versions in source and " ++ toString after ++ " in target" }

/-- The differences between the latest versions of a subject, if there are any. -/
def subjectDiff? (source target : LoadedRegistry) (mode : Mode) (withContent : Bool)
    (subject : String) : Except Failure (Option SubjectDiff) :=
  match source.latest subject, target.latest subject with
  | some before, some after =>
    if before.schema.root.fingerprint = after.schema.root.fingerprint then .ok none
    else
      match diff before.schema after.schema mode with
      | .error fault => .error (.type fault)
      | .ok [] => .ok none
      | .ok entries => .ok (some ⟨subject, entries, before, after, withContent⟩)
  | _, _ => .ok none

/-- The differences of the schemas of some subjects. Those of failed subjects are not compared. -/
def schemaDiffs (source target : LoadedRegistry) (mode : Mode) (withContent : Bool)
    (failed : List String) (subjects : List String) :
    Logged (Except Failure (List SubjectDiff)) := do
  let found ← Logged.collect (fun subject => do
    if failed.contains subject then
      Logged.tell .warning .registry
        ("Subject '" ++ subject ++ "' not compared: a registered version failed to parse")
      return .ok none
    else return subjectDiff? source target mode withContent subject) subjects
  return found.map fun ds => ds.filterMap id

/-- The export's subjects with their snapshot. -/
def LoadedRegistry.load (exported : RegistryExport) (url : String) :
    Logged (Except Failure LoadedRegistry) := do
  match exported.toSubjects with
  | .error f => return .error f
  | .ok subjects => return (← loadSubjects url subjects).map fun s => ⟨subjects, s⟩

/-- The comparison of two loaded registries. -/
def compareLoaded (source target : LoadedRegistry) (mode : Mode) (compareMode : CompareMode)
    (withContent : Bool) : Logged (Except Failure RegistryReport) := do
  let inSource := source.subjects
  let inTarget := target.subjects
  let onlyInSource := sortTexts (inSource.filter fun s => !inTarget.contains s)
  let onlyInTarget := sortTexts (inTarget.filter fun s => !inSource.contains s)
  let common := sortTexts (inSource.filter inTarget.contains)
  let failures := source.snapshot.failures ++ target.snapshot.failures
  Logged.tell .info .registry ("Comparing registries: " ++ toString onlyInSource.length ++
    " only in source, " ++ toString onlyInTarget.length ++ " only in target, " ++
    toString common.length ++ " common")
  let mismatches :=
    if compareMode.comparesVersions then common.filterMap (versionMismatch? source target) else []
  let compared := if compareMode.comparesSchemas then common else []
  match ← schemaDiffs source target mode withContent (failures.map (·.subject)) compared with
  | .error f => return .error f
  | .ok diffs =>
    return .ok ⟨onlyInSource, onlyInTarget, common, mismatches, diffs, failures, mode, compareMode⟩

/-- The comparison of the exports of two registries. -/
def compareRegistries (source target : RegistryExport) (mode : Mode) (compareMode : CompareMode)
    (withContent : Bool) : Logged (Except Failure RegistryReport) := do
  match ← LoadedRegistry.load source "source" with
  | .error f => return .error f
  | .ok source =>
    match ← LoadedRegistry.load target "target" with
    | .error f => return .error f
    | .ok target => compareLoaded source target mode compareMode withContent

end SchemaReview
