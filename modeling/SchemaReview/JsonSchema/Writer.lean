import SchemaReview.Failure
import SchemaReview.Schema.Basic

/-!
# JSON Schemas as JSON values

Untyped schemas without a label are written as booleans; a union of plain types as a type list, any
other as alternatives. A default is written only where the schema of the property is an object.
-/
namespace SchemaReview.JsonSchema

/-- Whether a type name stands for a schema that accepts everything or nothing. -/
def isUntyped (typeName : Option String) : Bool :=
  typeName == some "any" || typeName == some "never"

/-- A type without any attributes. -/
def isPlainType (s : Schema) : Bool :=
  s.kind == .primitive && s.name.isNull && s.documentation.isNull && s.logicalType.isNull &&
  !isUntyped s.typeName

/-- The schema of a property with its default, if it is an object. -/
def withDefault (schema default : Json) (hasDefault : Bool) : Json :=
  match schema with
  | .obj members =>
    if hasDefault && !default.isNull then .obj (Json.setMember members "default" default)
    else schema
  | _ => schema

mutual

def toJson (node : Schema) : Except Failure Json :=
  match node with
  | { kind, name, documentation, fields, typeName, logicalType, symbols, items, values, members,
      additionalProperties, .. } =>
    let label := Json.present "title" name ++ Json.present "description" documentation
    match kind with
    | .primitive =>
      if isUntyped typeName && label.isEmpty then .ok (.bool (typeName == some "any"))
      else
        .ok (.obj (label ++
          (if isUntyped typeName then [] else [("type", Json.ofOption .str typeName)]) ++
          Json.present "format" logicalType))
    | .reference => .ok (.obj (label ++ [("$ref", Json.ofOption .str typeName)]))
    | .enum => .ok (.obj (label ++ [("enum", .arr (symbols.map .str))]))
    | .union =>
      if members.all isPlainType then
        let names := members.map fun m => Json.ofOption Json.str m.typeName
        .ok (.obj (label ++ [("type", .arr names)]))
      else do return .obj (label ++ [("anyOf", .arr (← membersToJson members))])
    | .array => do
      return .obj (label ++ [("type", .str "array"), ("items", ← innerToJson items)])
    | .map => do
      let inner ← innerToJson values
      let schema := match inner with | .obj _ => inner | _ => .obj []
      return .obj (label ++ [("type", .str "object"), ("additionalProperties", schema)])
    | .record => do
      let properties ← fieldsToJson fields
      let required := (fields.filter fun f => !f.hasDefault).map fun f => Json.str f.name
      return .obj (label ++ [("type", .str "object"), ("properties", .obj properties)] ++
        (if required.isEmpty then [] else [("required", .arr required)]) ++
        Json.present "additionalProperties" (Json.ofOption .bool additionalProperties))
    | .message => throw (.value (.notJsonSchema .message))
    | .file => throw (.value (.notJsonSchema .file))

def innerToJson (inner : Option Schema) : Except Failure Json :=
  match inner with
  | none => absentNode
  | some s => toJson s

def membersToJson (members : List Schema) : Except Failure (List Json) :=
  match members with
  | [] => return []
  | m :: rest => return (← toJson m) :: (← membersToJson rest)

def fieldsToJson (fields : List Field) : Except Failure (List (String × Json)) :=
  match fields with
  | [] => return []
  | f :: rest => return (← fieldToJson f) :: (← fieldsToJson rest)

def fieldToJson (f : Field) : Except Failure (String × Json) :=
  match f with
  | { name, type, hasDefault, default, .. } => do
    return (name, withDefault (← toJson type) default hasDefault)

end

/-- The JSON Schema of a tree, headed by a dialect. A root that is written as a boolean has no
members to add the dialect to. -/
def documentJson (root : Schema) (uri : Option String) : Except Failure Json := do
  let head := match uri with
    | some u => if u = "" then [] else [("$schema", Json.str u)]
    | none => []
  match ← toJson root with
  | .obj members => return .obj (head ++ members)
  | other => throw (.type (.notIterable other.typeName))

end SchemaReview.JsonSchema
