import SchemaReview.Compatibility.Entry
import SchemaReview.Compatibility.Resolution
import SchemaReview.Schema.Walk

/-!
# Differences between two schemas

Two trees are walked side by side. Containers are compared field by field, enums symbol by symbol,
and all other types by their signatures. Every difference is an entry at a path; the mode decides
only which entries are breaking. When names are labels, a type is matched by the field that holds
it, and its name is informational.
-/
namespace SchemaReview

/-- How a comparison is made. -/
structure Comparison where
  mode : Mode
  byName : Bool
deriving Repr

abbrev Entries := Except TypeFault (List DiffEntry)

/-- What is shown of a field that was added or removed. -/
def fieldSnapshot (byName : Bool) (f : Field) : Except TypeFault Json := do
  let signature ← f.type.namedSignature byName
  return .obj ([("name", .str f.name), ("type", signature), ("has_default", .bool f.hasDefault)] ++
    (if f.hasDefault then [("default", f.default)] else []) ++
    Json.present "tag" (Json.ofOption .int f.tag))

/-- Whether two documentations differ; empty ones count as absent. -/
def docsDiffer (before after : Json) : Bool :=
  let present (d : Json) : Json := if d.isTruthy then d else .null
  !(present before).equals (present after)

/-- The value of a symbol, where values are given. -/
def symbolValue? (s : Schema) (symbol : String) : Option Int :=
  ((s.symbols.zip s.symbolValues).reverse.find? fun e => e.1 == symbol).map (·.2)

/-- A list of texts as messages show it. -/
def textsShown (texts : List String) : String :=
  (Json.arr (texts.map .str)).shown

namespace Comparison

/-- The entry for a type that was replaced. -/
def typeChange (c : Comparison) (path : Path) (before after : Schema) : Entries := do
  let old ← before.namedSignature c.byName
  let new ← after.namedSignature c.byName
  return [{
    kind := .fieldTypeChanged, path := path, before := old, after := new,
    breaking := Schema.isBreakingChange c.byName c.mode before after,
    message := "Type changed from '" ++ old.toText ++ "' to '" ++ new.toText ++ "'" }]

/-- Whether two signatures differ. -/
def signaturesDiffer (c : Comparison) (before after : Schema) : Except TypeFault Bool := do
  let old ← before.namedSignature c.byName
  let new ← after.namedSignature c.byName
  return !old.equals new

/-- The symbols with a value on both sides that is not the same, in the order of the earlier
enum. -/
def renumbered (before after : Schema) : List String :=
  (before.symbols.take before.symbolValues.length).eraseDups.filter fun s =>
    match symbolValue? before s, symbolValue? after s with
    | some v, some w => v != w
    | _, _ => false

/-- Whether two enums have the same symbols with the same values. -/
def sameSymbols (before after : Schema) : Bool :=
  before.symbols == after.symbols &&
  before.symbols.all fun s => symbolValue? before s == symbolValue? after s

/-- The entry for changed symbols of an enum. -/
def symbolChanges (c : Comparison) (path : Path) (before after : Schema) : List DiffEntry :=
  if sameSymbols before after then []
  else
    let removed := before.symbols.filter fun s => !after.symbols.contains s
    let added := after.symbols.filter fun s => !before.symbols.contains s
    let moved := renumbered before after
    let parts :=
      (if added.isEmpty then [] else ["added " ++ textsShown added]) ++
      (if removed.isEmpty then [] else ["removed " ++ textsShown removed]) ++
      (if moved.isEmpty then [] else ["renumbered " ++ textsShown moved])
    [{
      kind := .symbolsChanged, path := path, before := .arr (before.symbols.map .str),
      after := .arr (after.symbols.map .str),
      breaking := (c.mode.checksBackward && !removed.isEmpty) ||
        (c.mode.checksForward && !added.isEmpty) || (c.mode.isChecking && !moved.isEmpty),
      message := "Enum symbols changed: " ++
        (if parts.isEmpty then "reordered" else ", ".intercalate parts) }]

/-- The entries for the attributes of two matched named types. -/
def headChanges (c : Comparison) (path : Path) (before after : Schema) : List DiffEntry :=
  let qualifierText (s : Schema) : String := s.qualifier.getD "None"
  (if before.name.equals after.name then [] else
    [{ kind := .nameChanged, path := path, before := before.name, after := after.name,
       breaking := c.mode.isChecking && c.byName,
       message := "Name changed from '" ++ before.name.toText ++ "' to '" ++
         after.name.toText ++ "'" }]) ++
  (if before.qualifier = after.qualifier then [] else
    [{ kind := .namespaceChanged, path := path, before := Json.ofOption .str before.qualifier,
       after := Json.ofOption .str after.qualifier,
       message := "Namespace changed from '" ++ qualifierText before ++ "' to '" ++
         qualifierText after ++ "'" }]) ++
  (if docsDiffer before.documentation after.documentation then
    [{ kind := .docChanged, path := path, before := before.documentation,
       after := after.documentation, message := "Documentation changed" }]
   else [])

/-- Whether the loss of a field is breaking. The declarations of a file must not be dropped. -/
def removalBreaks (c : Comparison) (declarations : Bool) (f : Field) : Bool :=
  if declarations then c.mode.isChecking
  else if c.mode.direction = .full then true
  else c.mode.isChecking && !f.hasDefault

/-- The entries for fields that only the earlier container has. -/
def removals (c : Comparison) (path : Path) (before after : Schema) : Entries :=
  (before.fields.filter fun f => (after.field? f.name).isNone).mapM fun f => do
    return {
      kind := .fieldRemoved, path := path ++ [.name f.name], before := ← fieldSnapshot c.byName f,
      breaking := c.removalBreaks (before.kind == .file) f,
      message := "Field '" ++ f.name ++ "' was removed" }

/-- The entries for fields that only the later container has. -/
def additions (c : Comparison) (path : Path) (before after : Schema) : Entries :=
  (after.fields.filter fun f => (before.field? f.name).isNone).mapM fun f => do
    return {
      kind := .fieldAdded, path := path ++ [.name f.name], after := ← fieldSnapshot c.byName f,
      breaking := c.mode.isChecking && before.kind != .file && !f.hasDefault,
      message := "Field '" ++ f.name ++ "' was added" }

/-- The entries for the attributes of two fields of one name, their types' members aside. -/
def fieldChanges (c : Comparison) (path : Path) (old new : Field) : Entries := do
  let swapped := old.type.kind != new.type.kind && old.type.kind.isStructured &&
    new.type.kind.isStructured
  let differs ← if swapped then pure true else c.signaturesDiffer old.type new.type
  let typeEntries ← if differs then c.typeChange path old.type new.type else pure []
  let tagText (t : Option Int) : String := match t with | some n => toString n | none => "None"
  let tagEntries : List DiffEntry :=
    if old.tag = new.tag then [] else
      [{ kind := .fieldTypeChanged, path := path,
         before := .obj [("tag", Json.ofOption .int old.tag)],
         after := .obj [("tag", Json.ofOption .int new.tag)], breaking := c.mode.isChecking,
         message := "Field number changed from " ++ tagText old.tag ++ " to " ++
           tagText new.tag }]
  let shownDefault (f : Field) : Json := if f.hasDefault then f.default else .null
  let defaultEntries : List DiffEntry :=
    if old.hasDefault != new.hasDefault || (old.hasDefault && !old.default.equals new.default) then
      [{ kind := .fieldDefaultChanged, path := path, before := shownDefault old,
         after := shownDefault new, message := "Default value changed" }]
    else []
  let docEntries : List DiffEntry :=
    if docsDiffer old.documentation new.documentation then
      [{ kind := .docChanged, path := path, before := old.documentation,
         after := new.documentation, message := "Field documentation changed" }]
    else []
  return typeEntries ++ tagEntries ++ defaultEntries ++ docEntries

/-- Whether the named types that two fields stand for are compared member by member. -/
def matchesNamed (c : Comparison) (old new : Schema) : Bool :=
  old.kind == new.kind && (!c.byName || old.qualifiedName.equals new.qualifiedName)

end Comparison

namespace Comparison

mutual

/-- The entries for two matched types of one structured kind. -/
def namedChanges (c : Comparison) (path : Path) (before after : Schema) : Entries := do
  let head := c.headChanges path before after
  if before.kind = .enum then return head ++ c.symbolChanges path before after
  else
    let removed ← c.removals path before after
    let added ← c.additions path before after
    let changed ← c.commonChanges path before.fields after
    return head ++ removed ++ added ++ changed
termination_by (sizeOf before, 0)
decreasing_by exact Prod.Lex.left _ _ (Schema.sizeOf_fields_lt before)

/-- The entries for the fields that the later container has, too. -/
def commonChanges (c : Comparison) (path : Path) (fields : List Field) (after : Schema) :
    Entries :=
  match fields with
  | [] => return []
  | old :: rest =>
    match after.field? old.name with
    | none => c.commonChanges path rest after
    | some new => do
      let fieldPath := path ++ [.name old.name]
      let own ← c.fieldChanges fieldPath old new
      let nested ← c.nestedChanges fieldPath old.type new.type
      let others ← c.commonChanges path rest after
      return own ++ nested ++ others
termination_by (sizeOf fields, 0)
decreasing_by
  · simp only [List.cons.sizeOf_spec]
    exact Prod.Lex.left _ _ (by omega)
  · have := old.sizeOf_type_lt
    simp only [List.cons.sizeOf_spec]
    exact Prod.Lex.left _ _ (by omega)
  · simp only [List.cons.sizeOf_spec]
    exact Prod.Lex.left _ _ (by omega)

/-- The entries for the named types that two types stand for, if they match. -/
def nestedChanges (c : Comparison) (path : Path) (old new : Schema) : Entries :=
  match _h : old.unwrapNamed, new.unwrapNamed with
  | some oldNamed, some newNamed =>
    if c.matchesNamed oldNamed newNamed then c.namedChanges path oldNamed newNamed else return []
  | _, _ => return []
termination_by (sizeOf old, 1)
decreasing_by
  have := Schema.sizeOf_unwrapNamed_le _h
  rcases Nat.lt_or_eq_of_le this with hlt | heq
  · exact Prod.Lex.left _ _ hlt
  · rw [heq]
    exact Prod.Lex.right _ (by decide)

end

/-- The entry for roots of kinds that cannot be matched. -/
def incomparableEntry (before after : Schema) : DiffEntry :=
  { kind := .incomparable, path := [], before := .str before.kind.text,
    after := .str after.kind.text, breaking := true,
    message := (Failure.incomparable before.kind.text after.kind.text).message }

/-- The entries for two roots. -/
def rootChanges (c : Comparison) (before after : Schema) : Entries := do
  if before.kind ≠ after.kind then
    if before.kind.isStructured || after.kind.isStructured then
      return [incomparableEntry before after]
    else c.typeChange [] before after
  else if before.kind.isStructured then c.namedChanges [] before after
  else if ← c.signaturesDiffer before after then c.typeChange [] before after
  else return []

end Comparison

/-- A schema to compare: a document or a bare tree. -/
inductive SchemaInput where
  | document (d : Document)
  | model (s : Schema)
deriving Repr

def SchemaInput.root : SchemaInput → Schema
  | .document d => d.root
  | .model s => s

/-- Whether names are only labels, as titles of JSON Schemas are. -/
def SchemaInput.hasLabels : SchemaInput → Bool
  | .document d => d.format == .jsonSchema
  | .model _ => false

/-- The differences between two versions of a schema, in tree order. -/
def diff (before after : SchemaInput) (mode : Mode) : Entries :=
  let c : Comparison := ⟨mode, !(before.hasLabels || after.hasLabels)⟩
  c.rootChanges before.root after.root

end SchemaReview
