import SchemaReview.Failure
import SchemaReview.Schema.Basic

/-!
# Avro schemas as JSON values

A node is written in the shortest form that reads back: a primitive type without attributes and a
reference as their names, a union as an array, all others as objects.
-/
namespace SchemaReview.Avro

mutual

def toJson (node : Schema) : Except Failure Json :=
  match node with
  | { kind, name, qualifier, documentation, fields, typeName, logicalType, size, symbols,
      items, values, members, .. } =>
    let doc := Json.present "doc" documentation
    let logical := Json.present "logicalType" logicalType
    let typeJson := Json.ofOption .str typeName
    match kind with
    | .primitive =>
      if typeName = some "fixed" then
        let space := match qualifier with
          | some q => if q = "" then [] else [("namespace", Json.str q)]
          | none => []
        .ok (.obj ([("type", .str "fixed"), ("name", name)] ++ space ++
          [("size", Json.ofOption .int size)] ++ logical ++ doc))
      else if logicalType.isTruthy || documentation.isTruthy then
        .ok (.obj ([("type", typeJson)] ++ logical ++ doc))
      else .ok typeJson
    | .reference => .ok typeJson
    | .union => do return .arr (← membersToJson members)
    | .array => do return .obj ([("type", .str "array"), ("items", ← innerToJson items)] ++ doc)
    | .map => do return .obj ([("type", .str "map"), ("values", ← innerToJson values)] ++ doc)
    | .enum =>
      .ok (.obj ([("type", .str "enum"), ("name", name)] ++
        Json.present "namespace" (Json.ofOption .str qualifier) ++ doc ++
        [("symbols", .arr (symbols.map .str))]))
    | .record => do
      return .obj ([("type", .str "record"), ("name", name)] ++
        Json.present "namespace" (Json.ofOption .str qualifier) ++ doc ++
        [("fields", .arr (← fieldsToJson fields))])
    | .message => throw (.value (.notAvro .message))
    | .file => throw (.value (.notAvro .file))

def innerToJson (inner : Option Schema) : Except Failure Json :=
  match inner with
  | none => absentNode
  | some s => toJson s

def membersToJson (members : List Schema) : Except Failure (List Json) :=
  match members with
  | [] => return []
  | m :: rest => return (← toJson m) :: (← membersToJson rest)

def fieldsToJson (fields : List Field) : Except Failure (List Json) :=
  match fields with
  | [] => return []
  | f :: rest => return (← fieldToJson f) :: (← fieldsToJson rest)

def fieldToJson (f : Field) : Except Failure Json :=
  match f with
  | { name, type, documentation, hasDefault, default, .. } => do
    return .obj ([("name", .str name), ("type", ← toJson type)] ++
      Json.present "doc" documentation ++
      (if hasDefault then [("default", default)] else []))

end

end SchemaReview.Avro
