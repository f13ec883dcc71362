import SchemaReview.Lint.RuleSet
import SchemaReview.Lint.Version
import SchemaReview.Sorting
import SchemaReview.Source.FileTree
import SchemaReview.Yaml.Document

/-!
# Rule files

A rule file declares a format version, whether warnings count as failures, and overrides of rules.
All three may be missing. What a file may hold is checked before anything is taken from it; of
several faults the one at the smallest path is reported, with the line of the nearest place in the
text.
-/
namespace SchemaReview.Lint

structure RuleFile where
  overrides : Options := []
  version : Option String := none
  strict : Option Bool := none
  path : Option PosixPath := none
deriving Repr

/-- A fault in the content of a file, and the keys that lead to it. -/
structure Violation where
  path : List Datum
  fault : FileFault
deriving Repr

namespace RuleFile

/-- The severities that a file may name. -/
def severityWords : List String := ["error", "warning", "warn", "ERROR", "WARNING", "WARN"]

/-- Whether an entry may stand in the configuration of a rule. -/
def isConfigEntry (key value : Datum) : Bool :=
  match key, value with
  | .str "enabled", .bool _ => true
  | .str "severity", .str word => severityWords.contains word
  | .str "options", .mapping _ => true
  | _, _ => false

/-- Whether a value may stand for a rule. -/
def isRuleValue : Datum → Bool
  | .null => true
  | .bool _ => true
  | .str _ => true
  | .int _ => true
  | .float _ => true
  | .mapping entries => entries.all fun (key, value) => isConfigEntry key value
  | _ => false

/-- The steps to a key. The null key has none. -/
def keyPath : Datum → List Datum
  | .null => []
  | key => [key]

def ruleViolations (rules : Datum) : List Violation :=
  match rules with
  | .mapping entries =>
    (entries.filter fun e => !isRuleValue e.2).map fun (key, value) =>
      ⟨.str "rules" :: keyPath key, .noRuleValue value.shown⟩
  | other => [⟨[.str "rules"], .wrongType other.shown ["object"]⟩]

def isVersionValue : Datum → Bool
  | .str _ => true
  | .int _ => true
  | .float _ => true
  | _ => false

def isBoolean : Datum → Bool
  | .bool _ => true
  | _ => false

/-- The keys that a file may have. -/
def knownKeys : List Datum := [.str "version", .str "strict", .str "rules"]

/-- The keys of a file that it may not have, as a message lists them. -/
def unexpectedKeys (entries : List (Datum × Datum)) : List String :=
  let keys := (entries.map (·.1)).filter fun k => !knownKeys.any k.sameKey
  (keys.mergeSort fun a b => a.text ≤ b.text).map Datum.shown

/-- A violation if the value under a key is there and does not have one of the types. -/
def typeViolation (entries : List (Datum × Datum)) (key : String) (types : List String)
    (isOfType : Datum → Bool) : List Violation :=
  match Datum.textEntry? entries key with
  | none => []
  | some value =>
    if isOfType value then [] else [⟨[.str key], .wrongType value.shown types⟩]

/-- The faults in the content of a file. -/
def violations (entries : List (Datum × Datum)) : List Violation :=
  let unexpected := unexpectedKeys entries
  typeViolation entries "version" ["string", "number"] isVersionValue ++
    typeViolation entries "strict" ["boolean"] isBoolean ++
    (match Datum.textEntry? entries "rules" with
    | none => []
    | some rules => ruleViolations rules) ++
    (if unexpected.isEmpty then [] else [⟨[], .unexpectedKeys unexpected⟩])

/-- The violation that is reported. -/
def firstViolation (vs : List Violation) : Except Failure (Option Violation) :=
  match Sorting.sort (fun (a b : Violation) => Datum.pathLt a.path b.path) vs with
  | .ok sorted => .ok sorted.head?
  | .error f => .error (.type f)

/-- Where a node lies, in words: the name of the file and a line, if there is a node around. -/
def place (origin : String) (map : Yaml.SourceMap) (pointer : String) : String :=
  match map.locate pointer with
  | some mark => origin ++ ":" ++ toString (mark.line + 1)
  | none => origin

def isTrue : Datum → Option Bool
  | .bool b => some b
  | _ => none

/-- The file that entries without violations make up. -/
def ofEntries (entries : List (Datum × Datum)) : RuleFile :=
  let entry (key : String) : Datum := (Datum.textEntry? entries key).getD .null
  { overrides := match entry "rules" with
      | .mapping rules => rules
      | _ => []
    version := match entry "version" with
      | .null => none
      | v => some v.text
    strict := isTrue (entry "strict") }

/-- The entries of a file's content, which is a mapping or absent. -/
def entriesOf (origin content : String) : Except Failure (List (Datum × Datum)) :=
  match Yaml.load content with
  | .error (.unreadable _) => .error (.config (.notReadable origin))
  | .error (.failed f) => .error f
  | .ok .null => .ok []
  | .ok (.mapping entries) => .ok entries
  | .ok _ => .error (.config (.rootNotMapping origin))

/-- The rule file that a text spells. `origin` is the name under which faults are reported. -/
def ofText (content origin : String) : Logged (Except Failure RuleFile) := do
  match entriesOf origin content with
  | .error f => return .error f
  | .ok entries =>
    let map := Yaml.SourceMap.ofText content
    match firstViolation (violations entries) with
    | .error f => return .error f
    | .ok (some v) =>
      let pointer := Path.pointerOfTexts (v.path.map Datum.text)
      return .error (.config (.invalid (place origin map pointer) pointer v.fault))
    | .ok none =>
      let check := checkVersion ((Datum.textEntry? entries "version").getD .null)
      if !check.compatible then
        return .error (.config (.version (place origin map "/version") check.message))
      else
        if check.minorNewer then
          Logged.tell .warning .ruleFile (origin ++ ": " ++ check.message)
        return .ok (ofEntries entries)

/-- The rule file at a path. -/
def load (t : FileTree) (path : PosixPath) : Logged (Except Failure RuleFile) := do
  match t.entry path with
  | .absent => return .error (.config (.fileNotFound path.text))
  | .directory _ => return .error (.config (.notAFile path.text))
  | .file octets =>
    match textOfOctets octets with
    | .error f => return .error (.config (.unreadableFile path.text f.text))
    | .ok content =>
      match ← ofText content path.text with
      | .error f => return .error f
      | .ok file => return .ok { file with path := some path }

end RuleFile

/-- A rule set with the overrides of a file applied, if one is given. -/
def RuleSet.withFile (base : RuleSet) (t : FileTree) (path : Option PosixPath) :
    Logged (Except Failure RuleSet) := do
  match path with
  | none => return .ok base
  | some path =>
    match ← RuleFile.load t path with
    | .error f => return .error f
    | .ok file => mergeOverrides base (.mapping file.overrides)

end SchemaReview.Lint
