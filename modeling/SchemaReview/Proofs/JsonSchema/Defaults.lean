import SchemaReview.Proofs.JsonSchema.RoundTrip
import SchemaReview.Proofs.Parse.Outcome

/-!
# What is lost in writing a JSON Schema

A field whose type is written as a boolean has no object to put its default in. A tree without these
defaults is written as the tree itself, and being again a tree that a reading can yield it is what
is read back. So every accepted document is written as an object, unless the root itself is written
as a boolean, and the document that is read back has the same fields with the same defaults, apart
from the defaults of optional fields that accept everything.
-/
namespace SchemaReview.JsonSchema

instance : DecidablePred IsBareAny := fun s =>
  decidable_of_iff (s.kind = .primitive ∧ s.typeName = some "any" ∧ s.name.isNull = true ∧
    s.documentation.isNull = true) (by simp only [IsBareAny, Json.isNull_iff])

mutual

/-- As much of a tree as is written: the defaults are left out for which there is no place. -/
def writtenTree (node : Schema) : Schema :=
  match node with
  | { kind, name, qualifier, documentation, fields, typeName, logicalType, size, symbols,
      symbolValues, items, values, members, additionalProperties } =>
    { kind, name, qualifier, documentation, typeName, logicalType, size, symbols, symbolValues,
      additionalProperties,
      fields := writtenFields fields, items := writtenInner items,
      values := writtenInner values, members := writtenMembers members }

def writtenInner (inner : Option Schema) : Option Schema :=
  match inner with
  | none => none
  | some s => some (writtenTree s)

def writtenMembers (members : List Schema) : List Schema :=
  match members with
  | [] => []
  | m :: rest => writtenTree m :: writtenMembers rest

def writtenFields (fields : List Field) : List Field :=
  match fields with
  | [] => []
  | f :: rest => writtenField f :: writtenFields rest

def writtenField (f : Field) : Field :=
  match f with
  | { name, type, documentation, hasDefault, default, tag, label, raw } =>
    { name, documentation, hasDefault, tag, label, raw, type := writtenTree type,
      default := if IsBareAny type then .null else default }

end

/-! ### What stays as it is -/

section

variable {s : Schema} {f : Field}

theorem writtenMembers_eq (members : List Schema) :
    writtenMembers members = members.map writtenTree := by
  induction members with
  | nil => rfl
  | cons m rest ih => rw [writtenMembers, ih, List.map_cons]

theorem writtenFields_eq (fields : List Field) :
    writtenFields fields = fields.map writtenField := by
  induction fields with
  | nil => rfl
  | cons f rest ih => rw [writtenFields, ih, List.map_cons]

theorem writtenInner_eq (inner : Option Schema) :
    writtenInner inner = inner.map writtenTree := by
  cases inner <;> rfl

theorem writtenTree_eq (s : Schema) : writtenTree s = { s with
    fields := s.fields.map writtenField, items := s.items.map writtenTree,
    values := s.values.map writtenTree, members := s.members.map writtenTree } := by
  cases s
  rw [writtenTree, writtenMembers_eq, writtenFields_eq,
    writtenInner_eq, writtenInner_eq]

theorem writtenField_eq (f : Field) : writtenField f = { f with
    type := writtenTree f.type,
    default := if IsBareAny f.type then .null else f.default } := by
  cases f
  rw [writtenField]

theorem isBareAny_writtenTree : IsBareAny (writtenTree s) ↔ IsBareAny s := by
  rw [writtenTree_eq]
  exact Iff.rfl

theorem isPlainType_writtenTree : isPlainType (writtenTree s) = isPlainType s := by
  rw [writtenTree_eq]
  rfl

theorem IsBareAny.toJson (h : IsBareAny s) : toJson s = .ok (.bool true) := by
  obtain ⟨kind, typeName, name, documentation⟩ := h
  cases s
  dsimp only at *
  subst kind typeName name documentation
  rfl

end

/-! ### Writing -/

mutual

/-- A default that has no place makes no difference to what is written. -/
theorem toJson_writtenTree (s : Schema) : toJson (writtenTree s) = toJson s := by
  match s with
  | { kind, name, qualifier, documentation, fields, typeName, logicalType, size, symbols,
      symbolValues, items, values, members, additionalProperties } =>
    rw [writtenTree, toJson.eq_def, toJson.eq_def]
    dsimp only
    cases kind with
    | union =>
      have plain : (writtenMembers members).all isPlainType =
          members.all isPlainType := by
        rw [writtenMembers_eq, List.all_map]
        exact congrArg members.all (funext fun m => isPlainType_writtenTree)
      have names : (writtenMembers members).map
            (fun m => Json.ofOption Json.str m.typeName) =
          members.map fun m => Json.ofOption Json.str m.typeName := by
        rw [writtenMembers_eq, List.map_map]
        refine List.map_congr_left fun m _ => ?_
        rw [Function.comp_apply, writtenTree_eq]
      dsimp only
      rw [plain, names, membersToJson_writtenMembers members]
    | array =>
      dsimp only
      rw [innerToJson_writtenInner items]
    | map =>
      dsimp only
      rw [innerToJson_writtenInner values]
    | record =>
      have required : ((writtenFields fields).filter fun f => !f.hasDefault).map
            (fun f => Json.str f.name) =
          (fields.filter fun f => !f.hasDefault).map fun f => Json.str f.name := by
        rw [writtenFields_eq, List.filter_map, List.map_map]
        simp only [Function.comp_def, writtenField_eq]
      dsimp only
      rw [required, fieldsToJson_writtenFields fields]
    | _ => rfl

theorem innerToJson_writtenInner (inner : Option Schema) :
    innerToJson (writtenInner inner) = innerToJson inner := by
  match inner with
  | none => rfl
  | some s =>
    rw [writtenInner, innerToJson, innerToJson, toJson_writtenTree s]

theorem membersToJson_writtenMembers (members : List Schema) :
    membersToJson (writtenMembers members) = membersToJson members := by
  match members with
  | [] => rfl
  | m :: rest =>
    rw [writtenMembers, membersToJson, membersToJson, toJson_writtenTree m,
      membersToJson_writtenMembers rest]

theorem fieldsToJson_writtenFields (fields : List Field) :
    fieldsToJson (writtenFields fields) = fieldsToJson fields := by
  match fields with
  | [] => rfl
  | { name, type, documentation, hasDefault, default, tag, label, raw } :: rest =>
    rw [writtenFields, fieldsToJson, fieldsToJson,
      fieldsToJson_writtenFields rest, writtenField, fieldToJson, fieldToJson,
      toJson_writtenTree type]
    by_cases bare : IsBareAny type
    · rw [bare.toJson]
      rfl
    · rw [if_neg bare]

end

/-! ### Reading -/

theorem eq_never_of_writtenTree {s : Schema} (h : writtenTree s = booleanNode false) :
    s = booleanNode false := by
  rw [writtenTree_eq] at h
  cases s
  simpa [booleanNode] using h

theorem isProperty_writtenField {required : List String} {f : Field}
    (property : IsProperty required f) : IsProperty required (writtenField f) := by
  obtain ⟨named, documented, optional, requiredDefault, neverDefault, rest⟩ := property
  rw [writtenField_eq]
  refine ⟨named, ?_, optional, fun given => ?_, fun rejects => ?_, rest⟩
  · rw [writtenTree_eq]
    exact documented
  · dsimp only at given ⊢
    rw [requiredDefault given, ite_self]
  · dsimp only at rejects ⊢
    rw [neverDefault (eq_never_of_writtenTree rejects), ite_self]

mutual

theorem isTree_writtenTree {s : Schema} (tree : IsTree s) :
    IsTree (writtenTree s) := by
  match tree with
  | .boolean accepts => exact .boolean accepts
  | .object tree => exact .object (isObjectTree_writtenTree tree)

theorem isObjectTree_writtenTree {s : Schema} (tree : IsObjectTree s) :
    IsObjectTree (writtenTree s) := by
  match tree with
  | .untyped name doc => exact .untyped name doc
  | .primitive known format name doc => exact .primitive known format name doc
  | .reference target name doc => exact .reference target name doc
  | .enum symbols name doc => exact .enum symbols name doc
  | .union nonempty trees name doc =>
    rw [writtenTree_eq]
    refine .union (by simpa using nonempty) ?_ name doc
    rw [List.forall_mem_map]
    exact fun m hm => isTree_writtenTree (trees m hm)
  | .array tree name doc => exact .array (isTree_writtenTree tree) name doc
  | .map tree name doc => exact .map (isObjectTree_writtenTree tree) name doc
  | @IsObjectTree.record required _ properties trees name doc additional =>
    rw [writtenTree_eq]
    refine @IsObjectTree.record required _ ?_ ?_ name doc additional
    · rw [List.forall_mem_map]
      intro f hf
      exact isProperty_writtenField (properties f hf)
    · rw [List.forall_mem_map]
      intro f hf
      rw [writtenField_eq]
      exact isTree_writtenTree (trees f hf)

end

/-! ### Walking -/

/-- A visit of the written part of a tree in the place of a visit of the tree. -/
def writtenVisit (visit : Visit) : Visit :=
  { visit with node := writtenTree visit.node, field := visit.field.map writtenField }

mutual

theorem walkFrom_writtenTree (s : Schema) (path : Path) (above : Nat) (owner : Option Field) :
    (writtenTree s).walkFrom path above (owner.map writtenField) =
      (s.walkFrom path above owner).map writtenVisit := by
  match s with
  | { kind, name, qualifier, documentation, fields, typeName, logicalType, size, symbols,
      symbolValues, items, values, members, additionalProperties } =>
    rw [writtenTree, Schema.walkFrom.eq_def, Schema.walkFrom.eq_def, List.map_cons]
    refine congrArg₂ List.cons ?_ ?_
    · rw [writtenVisit, writtenTree]
    · cases kind with
      | record | message | file => exact walkFields_writtenFields fields ..
      | union => exact walkMembers_writtenMembers members ..
      | array => exact walkInner_writtenInner items ..
      | map => exact walkInner_writtenInner values ..
      | _ => rfl

theorem walkFields_writtenFields (fields : List Field) (path : Path) (depth : Nat) :
    Schema.walkFields (writtenFields fields) path depth =
      (Schema.walkFields fields path depth).map writtenVisit := by
  match fields with
  | [] => rfl
  | { name, type, documentation, hasDefault, default, tag, label, raw } :: rest =>
    have first := walkFrom_writtenTree type (path ++ [.name name]) depth
      (some { name, type, documentation, hasDefault, default, tag, label, raw })
    rw [Option.map_some, writtenField] at first
    rw [writtenFields, Schema.walkFields, Schema.walkFields, List.map_append,
      walkFields_writtenFields rest, writtenField, Schema.walkField, Schema.walkField, first]

theorem walkMembers_writtenMembers (members : List Schema) (position : Nat) (path : Path)
    (depth : Nat) (owner : Option Field) :
    Schema.walkMembers (writtenMembers members) position path depth (owner.map writtenField) =
      (Schema.walkMembers members position path depth owner).map writtenVisit := by
  match members with
  | [] => rfl
  | m :: rest =>
    rw [writtenMembers, Schema.walkMembers, Schema.walkMembers, List.map_append,
      walkMembers_writtenMembers rest, walkFrom_writtenTree m]

theorem walkInner_writtenInner (inner : Option Schema) (path : Path) (depth : Nat)
    (owner : Option Field) :
    Schema.walkInner (writtenInner inner) path depth (owner.map writtenField) =
      (Schema.walkInner inner path depth owner).map writtenVisit := by
  match inner with
  | none => rfl
  | some s => rw [writtenInner, Schema.walkInner, Schema.walkInner, walkFrom_writtenTree s]

end

/-- What is written of a tree is walked as the tree is. -/
theorem walk_writtenTree (s : Schema) : (writtenTree s).walk = s.walk.map writtenVisit :=
  walkFrom_writtenTree s [] 0 none

theorem keepsDefaults_writtenTree (s : Schema) : KeepsDefaults (writtenTree s) := by
  intro visit hv f hf _ bare
  rw [walk_writtenTree] at hv
  obtain ⟨source, -, rfl⟩ := List.mem_map.mp hv
  rw [writtenVisit, writtenTree_eq] at hf
  obtain ⟨g, -, rfl⟩ := List.mem_map.mp hf
  rw [writtenField_eq] at bare ⊢
  exact if_pos (isBareAny_writtenTree.mp bare)

/-! ### Documents -/

/-- What a field is read again as: its default is lost if its type accepts everything. -/
structure IsFieldAgain (f g : Field) : Prop where
  name : g.name = f.name
  hasDefault : g.hasDefault = f.hasDefault
  default : g.default = if IsBareAny f.type then .null else f.default

/-- What a visit is found again as: at the same place, below the same field and with the same fields
in the same order. -/
structure IsVisitAgain (v w : Visit) : Prop where
  path : w.path = v.path
  field : Option.Rel IsFieldAgain v.field w.field
  fields : List.Forall₂ IsFieldAgain v.node.fields w.node.fields

theorem isFieldAgain_writtenField (f : Field) : IsFieldAgain f (writtenField f) := by
  rw [writtenField_eq]
  exact ⟨rfl, rfl, rfl⟩

theorem forall₂_walk_writtenTree (s : Schema) :
    List.Forall₂ IsVisitAgain s.walk (writtenTree s).walk := by
  rw [walk_writtenTree, List.forall₂_map_right_iff, List.forall₂_same]
  intro visit _
  refine ⟨rfl, ?_, ?_⟩
  · rw [writtenVisit]
    cases visit.field with
    | none => exact .none
    | some f => exact .some (isFieldAgain_writtenField f)
  · rw [writtenVisit, writtenTree_eq, List.forall₂_map_right_iff, List.forall₂_same]
    exact fun f _ => isFieldAgain_writtenField f

/-- An accepted text is written as an object, unless its root accepts everything and has no label.
Read again, the object has the fields of the text with their defaults, which are lost where the type
of the field accepts everything and has no label. -/
theorem documentJson_of_parse {text : String} {doc : Document}
    (h : parse text .jsonSchema = .ok doc) :
    (IsBareAny doc.root →
      documentJson doc.root doc.schemaUri = .error (.type (.notIterable "bool"))) ∧
    (¬ IsBareAny doc.root →
      ∃ members again, documentJson doc.root doc.schemaUri = .ok (.obj members) ∧
        ofJson (.obj members) = .ok again ∧
        List.Forall₂ IsVisitAgain doc.root.walk again.root.walk) := by
  obtain ⟨v, -, read⟩ := parse_jsonSchema_eq_ok.mp h
  have tree := isObjectTree_writtenTree (isObjectTree_of_ofJson read)
  constructor
  · intro bare
    unfold documentJson
    rw [bare.toJson]
    rfl
  · intro labelled
    obtain ⟨accepts, node⟩ | ⟨members, written, keywords, readsBack⟩ :=
      writesBack_of_isObjectTree tree (keepsDefaults_writtenTree doc.root)
    · cases accepts with
      | false => exact absurd node tree.ne_never
      | true =>
        refine absurd (isBareAny_writtenTree.mp ?_) labelled
        rw [node]
        exact ⟨rfl, rfl, rfl, rfl⟩
    · rw [toJson_writtenTree] at written
      obtain ⟨uri, declared⟩ := declaredUri_dialectMember keywords doc.schemaUri
      refine ⟨_, { format := .jsonSchema, root := writtenTree doc.root, schemaUri := uri },
        documentJson_eq written _, ?_, forall₂_walk_writtenTree doc.root⟩
      rw [ofJson, declared, schemaOf_dialectMember, readsBack]
      rfl

/-- A property of anything and one of booleans, each with a default. -/
def looseText : String :=
  "\x7b\"properties\":\x7b\"a\":\x7b\"default\":true\x7d,\"b\":" ++
    "\x7b\"type\":\"boolean\",\"default\":true\x7d\x7d\x7d"

/-- A record of these fields with a given default of the property of anything. -/
def looseRoot (default : Json) : Schema := {
  kind := .record,
  fields := [
    { name := "a", type := booleanNode true, hasDefault := true, default },
    { name := "b", type := plainType "boolean", hasDefault := true, default := .bool true }] }

/-- What the text is written as. -/
def looseMembers : List (String × Json) :=
  [("type", .str "object"),
    ("properties", .obj [("a", .bool true),
      ("b", .obj [("type", .str "boolean"), ("default", .bool true)])])]

theorem parse_looseText :
    parse looseText .jsonSchema =
      .ok { format := .jsonSchema, root := looseRoot (.bool true) } := by
  have read : jsonOfSchemaText looseText = .ok (.obj [("properties", .obj [
      ("a", .obj [("default", .bool true)]),
      ("b", .obj [("type", .str "boolean"), ("default", .bool true)])])]) :=
    jsonOfSchemaText_eq_ok.mpr (Json.ofText_of_spelled (spelled_append rfl rfl) (by cbv))
  exact parse_jsonSchema_eq_ok.mpr ⟨_, read, by cbv⟩

theorem documentJson_of_parse_loose : ¬ IsBareAny (looseRoot (.bool true)) ∧
    ∃ members again, documentJson (looseRoot (.bool true)) none = .ok (.obj members) ∧
      ofJson (.obj members) = .ok again ∧
      List.Forall₂ IsVisitAgain (looseRoot (.bool true)).walk again.root.walk := by
  have labelled : ¬ IsBareAny (looseRoot (.bool true)) := by decide
  exact ⟨labelled, (documentJson_of_parse parse_looseText).2 labelled⟩

/-- The schema of anything cannot be written, and a default of anything is not kept. -/
theorem bareAny_unwritten :
    (∃ doc, parse "\x7b\x7d" .jsonSchema = .ok doc ∧
      documentJson doc.root doc.schemaUri = .error (.type (.notIterable "bool"))) ∧
    ∃ doc members again, parse looseText .jsonSchema = .ok doc ∧
      documentJson doc.root doc.schemaUri = .ok (.obj members) ∧
      ofJson (.obj members) = .ok again ∧
      doc.root.fields.map FieldOf.default = [.bool true, .bool true] ∧
      again.root.fields.map FieldOf.default = [.null, .bool true] := by
  have empty : jsonOfSchemaText "\x7b\x7d" = .ok (.obj []) :=
    jsonOfSchemaText_eq_ok.mpr (Json.ofText_of_spelled rfl (by cbv))
  constructor
  · have built : ofJson (.obj []) = .ok { format := .jsonSchema, root := booleanNode true } := by
      cbv
    exact ⟨_, parse_jsonSchema_eq_ok.mpr ⟨_, empty, built⟩, rfl⟩
  · have written : documentJson (looseRoot (.bool true)) none = .ok (.obj looseMembers) := by cbv
    have readsBack : ofJson (.obj looseMembers) =
        .ok { format := .jsonSchema, root := looseRoot .null } := by
      cbv
    exact ⟨_, _, _, parse_looseText, written, readsBack, rfl, rfl⟩

end SchemaReview.JsonSchema
