import SchemaReview.Compatibility.Diff
import SchemaReview.Failure
import SchemaReview.Log

/-!
# Checking a candidate against registered versions

A candidate is compared with the latest registered version of its subject, or with all of them if
the mode is transitive, oldest first. It is compatible if no difference is breaking, and also if
nothing is registered yet.
-/
namespace SchemaReview

/-- A version of a subject in a registry. -/
structure RegisteredVersion where
  version : Int
  schema : SchemaInput
  /-- The registry's identifier of the schema. -/
  id : Json := .null
  /-- The text that the schema was read from. -/
  raw : Option String := none
deriving Repr

/-- A schema that a candidate is compared with. -/
inductive PriorVersion where
  | registered (v : RegisteredVersion)
  /-- A schema whose place in the list is its number, counted from one. -/
  | bare (s : SchemaInput)
deriving Repr

inductive Verdict where
  | compatible
  | incompatible
  | unknownSubject
deriving DecidableEq, Repr

namespace Verdict

def text : Verdict → String
  | .compatible => "compatible"
  | .incompatible => "incompatible"
  | .unknownSubject => "unknown_subject_not_found"

def isCompatible (v : Verdict) : Bool := v != .incompatible

end Verdict

structure CheckResult where
  identifier : String
  verdict : Verdict
  mode : Mode
  entries : List DiffEntry := []
  /-- The numbers of the versions that were compared, oldest first. -/
  checkedVersions : List Int := []
  /-- The file of the candidate. -/
  source : Option String := none
  error : Option String := none
deriving Repr

namespace CheckResult

def compatible (r : CheckResult) : Bool := r.error.isNone && r.verdict.isCompatible

def breakingEntries (r : CheckResult) : List DiffEntry := r.entries.filter (·.breaking)

/-- The result as plain data. -/
def toJson (r : CheckResult) : Json :=
  .obj ([("subject", .str r.identifier), ("verdict", .str r.verdict.text),
    ("compatible", .bool r.compatible), ("mode", .str r.mode.text),
    ("checked_versions", .arr (r.checkedVersions.map .int)),
    ("entries", .arr (r.entries.map DiffEntry.toJson))] ++
    Json.present "source" (Json.ofOption .str r.source) ++
    Json.present "error" (Json.ofOption .str r.error))

end CheckResult

/-- The mode that is used when none is asked for. -/
def defaultMode : Mode := .backward

/-- The mode that a value names. -/
def modeOfJson (value : Json) : Except Failure Mode :=
  match Mode.ofText? value.toText with
  | some m => .ok m
  | none => .error (.value (.unknownMode value.toText))

/-- The first of two values if it counts as present, or else the second. -/
def firstPresent (a b : Json) : Json := if a.isTruthy then a else b

/-- The mode to check with: the requested one, or else the registry's, or else the default. -/
def resolveMode (requested registryConfig : Json) : Except Failure Mode :=
  if requested.isTruthy then modeOfJson requested
  else if !registryConfig.isTruthy then .ok defaultMode
  else
    match registryConfig with
    | .obj members =>
      let level := firstPresent (Json.memberOrNull members "compatibilityLevel")
        (Json.memberOrNull members "compatibility")
      if level.isTruthy then modeOfJson level else .ok defaultMode
    | other => .error (.noAttribute other.typeName "get")

/-- The number and the schema of each version, with positions counted from a number on. -/
def numberFrom : Nat → List PriorVersion → List (Int × SchemaInput)
  | _, [] => []
  | n, .registered v :: rest => (v.version, v.schema) :: numberFrom (n + 1) rest
  | n, .bare s :: rest => (n, s) :: numberFrom (n + 1) rest

/-- Versions by number, oldest first. -/
def orderVersions (prior : List PriorVersion) : List (Int × SchemaInput) :=
  (numberFrom 1 prior).mergeSort fun a b => a.1 ≤ b.1

/-- The versions that a mode compares with. -/
def checkedAgainst (mode : Mode) (prior : List PriorVersion) : List (Int × SchemaInput) :=
  let ordered := orderVersions prior
  if mode.isTransitive then ordered else ordered.getLast?.toList

/-- Entries with those of another list added that are not among them yet. -/
def addEntries (entries added : List DiffEntry) : List DiffEntry :=
  added.foldl (fun acc e => if acc.any (e.same ·) then acc else acc ++ [e]) entries

/-- The differences of a candidate from all of the given versions, each once. -/
def collectEntries (candidate : SchemaInput) (mode : Mode) :
    List (Int × SchemaInput) → List DiffEntry → Except TypeFault (List DiffEntry)
  | [], entries => .ok entries
  | (_, schema) :: rest, entries => do
    collectEntries candidate mode rest (addEntries entries (← diff schema candidate mode))

/-- The result of comparing a candidate with the given versions. -/
def compareAll (candidate : SchemaInput) (mode : Mode) (identifier : String)
    (versions : List (Int × SchemaInput)) : Except Failure CheckResult :=
  match collectEntries candidate mode versions [] with
  | .error fault => .error (.type fault)
  | .ok entries => .ok {
      identifier := identifier
      verdict := if hasBreaking entries then .incompatible else .compatible
      mode := mode
      entries := entries
      checkedVersions := versions.map (·.1) }

/-- The check of a candidate against the registered versions of its subject. -/
def checkCompatible (candidate : SchemaInput) (prior : List PriorVersion) (mode : Mode)
    (identifier : String) : Logged (Except Failure CheckResult) :=
  if prior.isEmpty then do
    Logged.tell .info .check ("Subject '" ++ identifier ++
      "' has no registered versions; treating as compatible")
    return .ok ⟨identifier, .unknownSubject, mode, [], [], none, none⟩
  else return compareAll candidate mode identifier (checkedAgainst mode prior)

end SchemaReview
