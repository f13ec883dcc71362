import SchemaReview.Compatibility.Check
import SchemaReview.Source.Basic
import SchemaReview.Text.Integer

/-!
# Registry exports

An export lists the entries of each subject. An entry is a registry's own description of a version,
or a version that was read already. Loading reads every description; one that cannot be read is left
out and reported, and the rest still loads.
-/
namespace SchemaReview

inductive RegistryEntry where
  | ready (v : RegisteredVersion)
  | payload (value : Json)
deriving Repr

/-- What an export holds under a subject. -/
inductive SubjectEntries where
  | listed (entries : List RegistryEntry)
  /-- A value that is no list. Objects and texts still have elements. -/
  | value (v : Json)
deriving Repr

/-- The content of a registry as it was exported. -/
inductive RegistryExport where
  | subjects (entries : List (String × SubjectEntries))
  /-- A value that is no object. -/
  | value (v : Json)
deriving Repr

/-- A version that could not be read. -/
structure LoadFailure where
  subject : String
  registry : String
  version : Json
  error : String
deriving Repr

def LoadFailure.toJson (f : LoadFailure) : Json :=
  .obj [("subject", .str f.subject), ("registry", .str f.registry), ("version", f.version),
    ("error", .str f.error)]

/-- The versions of each subject, in the order of their entries, and what could not be read. -/
structure Snapshot where
  subjects : List (String × List RegisteredVersion) := []
  failures : List LoadFailure := []
deriving Repr

namespace SubjectEntries

/-- The elements of what an export holds under a subject. -/
def toEntries : SubjectEntries → Except Failure (List RegistryEntry)
  | .listed entries => .ok entries
  | .value v =>
    if !v.isTruthy then .ok []
    else
      match v with
      | .arr items => .ok (items.map .payload)
      | .obj members => .ok (members.map fun m => .payload (.str m.1))
      | .str s => .ok (s.toList.map fun c => .payload (.str (String.singleton c)))
      | other => .error (.type (.notIterable other.typeName))

end SubjectEntries

namespace RegistryExport

/-- The subjects of an export. An absent or empty one has none. -/
def toSubjects : RegistryExport → Except Failure (List (String × SubjectEntries))
  | .subjects entries => .ok entries
  | .value v => if v.isTruthy then .error (.noAttribute v.typeName "items") else .ok []

end RegistryExport

/-- The version number that a value stands for. -/
def versionNumber (value : Json) : Except Failure Int :=
  match value with
  | .int n => .ok n
  | .bool b => .ok (if b then 1 else 0)
  | .float .nan => .error (.value .notANumber)
  | .float x =>
    match x.truncate? with
    | some n => .ok n
    | none => .error .infinityToInteger
  | .str s =>
    match Text.integerValue? s.toList with
    | some n => .ok n
    | none => .error (.value (.notAnInteger (Text.quoted s)))
  | other => .error (.type (.notIntegerLike other.typeName))

/-- The number that an entry declares, or else its position counted from one. -/
def declaredNumber (position : Nat) (value : Json) : Json :=
  match value with
  | .obj members => (Json.member? members "version").getD (.int (position + 1))
  | _ => .int (position + 1)

/-- The version that a registry's description stands for. -/
def readEntry (url subject : String) (number value : Json) : Except Failure RegisteredVersion :=
  match value with
  | .obj members =>
    match (Json.member? members "schemaText").getD (Json.memberOrNull members "schema") with
    | .str text => do
      let source ← Source.ofRegistry ⟨url, subject, number⟩ text
        (Json.memberOrNull members "schemaType")
      let version ← versionNumber number
      let document ← source.parse
      return ⟨version, .document document, Json.memberOrNull members "id", some text⟩
    | _ => .error (.parse { fault := .entryWithoutText })
  | other => .error (.parse { fault := .entryNotObject other.typeName })

/-- The versions and failures of a subject's entries, with positions counted from a number on. -/
def loadEntries (url subject : String) : Nat → List RegistryEntry →
    Logged (Except Failure (List RegisteredVersion × List LoadFailure))
  | _, [] => return .ok ([], [])
  | position, .ready v :: rest => do
    return (← loadEntries url subject (position + 1) rest).map fun (vs, fs) => (v :: vs, fs)
  | position, .payload value :: rest => do
    let number := declaredNumber position value
    match readEntry url subject number value with
    | .ok v =>
      return (← loadEntries url subject (position + 1) rest).map fun (vs, fs) => (v :: vs, fs)
    | .error f =>
      if f.isSchemaFailure || f.isValueFailure then
        Logged.tell .error .registry ("Failed to load '" ++ subject ++ "' version " ++
          number.toText ++ " from " ++ (if url = "" then "registry" else url) ++ ": " ++ f.message)
        let failure : LoadFailure := ⟨subject, url, number, f.message⟩
        return (← loadEntries url subject (position + 1) rest).map fun (vs, fs) =>
          (vs, failure :: fs)
      else return .error f

/-- The snapshot of the given subjects. -/
def loadSubjects (url : String) : List (String × SubjectEntries) →
    Logged (Except Failure Snapshot)
  | [] => return .ok {}
  | (subject, held) :: rest => do
    match held.toEntries with
    | .error f => return .error f
    | .ok entries =>
      match ← loadEntries url subject 0 entries with
      | .error f => return .error f
      | .ok (versions, failures) =>
        return (← loadSubjects url rest).map fun s =>
          ⟨(subject, versions) :: s.subjects, failures ++ s.failures⟩

/-- The snapshot of an export from the registry at an address. -/
def loadSnapshot (exported : RegistryExport) (url : String) : Logged (Except Failure Snapshot) :=
  match exported.toSubjects with
  | .error f => return .error f
  | .ok subjects => loadSubjects url subjects

/-- The version with the highest number; the first of them if there are several. -/
def latestVersion (versions : List RegisteredVersion) : Option RegisteredVersion :=
  match versions with
  | [] => none
  | v :: rest => some (rest.foldl (fun best w => if best.version < w.version then w else best) v)

end SchemaReview
