import SchemaReview.Failure
import SchemaReview.Json.Writer
import SchemaReview.Schema.Basic

/-!
# JSON Schemas from JSON values

Objects become records with one field per property, `enum` becomes an enum, type lists and
alternatives become unions, and `$ref` becomes a reference. Of several keywords in one object the
first in this order decides: `$ref`, `enum`, `anyOf`, `oneOf`, `type`. A property has a default when
it is not required.
-/
namespace SchemaReview.JsonSchema

abbrev Result (α : Type) := Except Failure α

def fail {α : Type} (fault : Fault) (path : Path) : Result α :=
  throw (.parse ⟨.jsonSchema fault, none, path⟩)

def primitiveTypes : List String := ["string", "integer", "number", "boolean", "null"]

/-- The symbol of an enumerated value: a string itself, any other value as its text. -/
def symbolOf : Json → String
  | .str s => s
  | v => v.write .spacedAscii

/-- The node of an absent schema or of a boolean one. -/
def booleanNode (accepts : Bool) : Schema :=
  { kind := .primitive, typeName := some (if accepts then "any" else "never") }

/-- The node of an object that holds nothing but a type name. -/
def bareType (name : String) (path : Path) : Result Schema :=
  if name = "object" then return { kind := .record }
  else if name = "array" then return { kind := .array, items := some (booleanNode true) }
  else if primitiveTypes.contains name then
    return { kind := .primitive, typeName := some name }
  else fail (.unknownType name) path

/-- The type names of a list. -/
def typeNames : List Json → Nat → Path → Result (List String)
  | [], _, _ => return []
  | .str t :: rest, i, path => return t :: (← typeNames rest (i + 1) path)
  | other :: _, i, path => fail (.typeEntryNotString other.typeName) (path ++ [.index i])

/-- The nodes of type names from a position on. -/
def bareTypes : List String → Nat → Path → Result (List Schema)
  | [], _, _ => return []
  | t :: rest, i, path => do
    let node ← bareType t (path ++ [.index i])
    return node :: (← bareTypes rest (i + 1) path)

/-- The names of a list of required properties. -/
def requiredNames (value : Option Json) (path : Path) : Result (List String) :=
  match value with
  | none => return []
  | some (.arr items) => names items
  | some _ => fail .requiredNotStrings path
where
  names : List Json → Result (List String)
    | [] => return []
    | .str s :: rest => return s :: (← names rest)
    | _ :: _ => fail .requiredNotStrings path

/-- Whether unlisted properties are allowed, as far as the value says so. -/
def additionalFlag (value : Json) (path : Path) : Result (Option Bool) :=
  match value with
  | .null => return none
  | .bool b => return some b
  | .obj _ => return some true
  | _ => fail .additionalPropertiesNotSchema path

/-- A property as a field: it must have a name. -/
def propertyField (name : String) (value : Json) (type : Schema) (required : List String) :
    Result Field :=
  if name = "" then throw (.value (.model .emptyFieldName))
  else
    let hasDefault := !required.contains name
    let default :=
      match value with
      | .obj members => if hasDefault then Json.memberOrNull members "default" else .null
      | _ => .null
    return {
      name := name, type := type, documentation := type.documentation, hasDefault := hasDefault,
      default := default }

mutual

/-- The node of a value at a path. -/
def schemaOf (node : Json) (path : Path) : Result Schema :=
  match node with
  | .bool accepts => return booleanNode accepts
  | .obj members =>
    let name := Json.memberOrNull members "title"
    let doc := Json.memberOrNull members "description"
    match Json.member? members "$ref" with
    | some target =>
      return { kind := .reference, typeName := some target.toText, name := name,
               documentation := doc }
    | none =>
    match Json.member? members "enum" with
    | some (.arr items) =>
      return { kind := .enum, name := name, documentation := doc, symbols := items.map symbolOf }
    | some _ => fail .enumNotArray path
    | none =>
    match _h : Json.member? members "anyOf" with
    | some (.arr options) =>
      if options.isEmpty then fail (.emptyAlternatives "anyOf") path
      else do
        return { kind := .union, name := name, documentation := doc,
                 members := ← alternativesOf options 0 path }
    | some _ => fail (.emptyAlternatives "anyOf") path
    | none =>
    match _h : Json.member? members "oneOf" with
    | some (.arr options) =>
      if options.isEmpty then fail (.emptyAlternatives "oneOf") path
      else do
        return { kind := .union, name := name, documentation := doc,
                 members := ← alternativesOf options 0 path }
    | some _ => fail (.emptyAlternatives "oneOf") path
    | none =>
    match Json.memberOrNull members "type" with
    | .arr entries => do
      let names ← typeNames entries 0 path
      if names.isEmpty then fail .emptyTypeList path
      return { kind := .union, name := name, documentation := doc,
               members := ← bareTypes names 0 path }
    | .str type =>
      if type = "object" then objectOf members path
      else if type = "array" then do
        let items ←
          match _h : Json.member? members "items" with
          | some items => schemaOf items path
          | none => pure (booleanNode true)
        return { kind := .array, name := name, documentation := doc, items := some items }
      else if primitiveTypes.contains type then
        return { kind := .primitive, typeName := some type,
                 logicalType := Json.memberOrNull members "format", name := name,
                 documentation := doc }
      else fail (.unknownType type) path
    | .null =>
      if Json.hasMember members "properties" then objectOf members path
      else
        return { kind := .primitive, typeName := some "any", name := name, documentation := doc }
    | other => fail (.typeNotString other.typeName) path
  | other => fail (.notASchema other.typeName) path
termination_by (sizeOf node, 0)
decreasing_by
  · have := Json.sizeOf_lt_of_member? _h
    simp only [Json.obj.sizeOf_spec, Json.arr.sizeOf_spec] at *
    exact Prod.Lex.left _ _ (by omega)
  · have := Json.sizeOf_lt_of_member? _h
    simp only [Json.obj.sizeOf_spec, Json.arr.sizeOf_spec] at *
    exact Prod.Lex.left _ _ (by omega)
  · simp only [Json.obj.sizeOf_spec]
    exact Prod.Lex.left _ _ (by omega)
  · have := Json.sizeOf_lt_of_member? _h
    simp only [Json.obj.sizeOf_spec]
    exact Prod.Lex.left _ _ (by omega)
  · simp only [Json.obj.sizeOf_spec]
    exact Prod.Lex.left _ _ (by omega)

/-- The alternatives of a union from a position on. -/
def alternativesOf (options : List Json) (position : Nat) (path : Path) : Result (List Schema) :=
  match options with
  | [] => return []
  | option :: rest => do
    let schema ← schemaOf option (path ++ [.index position])
    return schema :: (← alternativesOf rest (position + 1) path)
termination_by (sizeOf options, 0)

/-- The node of an object type: a map if only the schema of its values is given, else a record. -/
def objectOf (members : List (String × Json)) (path : Path) : Result Schema :=
  let name := Json.memberOrNull members "title"
  let doc := Json.memberOrNull members "description"
  let additional := Json.memberOrNull members "additionalProperties"
  match _hp : Json.member? members "properties" with
  | some (.obj properties) =>
    match properties.isEmpty, additional, _ha : Json.member? members "additionalProperties" with
    | true, .obj _, some values => do
      return { kind := .map, name := name, documentation := doc,
               values := some (← schemaOf values path) }
    | _, _, _ => do
      let required ← requiredNames (Json.member? members "required") path
      let fields ← fieldsOf properties required path
      let flag ← additionalFlag additional path
      return { kind := .record, name := name, documentation := doc, fields := fields,
               additionalProperties := flag }
  | some _ => fail .propertiesNotObject path
  | none =>
    match additional, _ha : Json.member? members "additionalProperties" with
    | .obj _, some values => do
      return { kind := .map, name := name, documentation := doc,
               values := some (← schemaOf values path) }
    | _, _ => do
      let _ ← requiredNames (Json.member? members "required") path
      let flag ← additionalFlag additional path
      return { kind := .record, name := name, documentation := doc, additionalProperties := flag }
termination_by (sizeOf members, 0)
decreasing_by
  · have := Json.sizeOf_lt_of_member? _ha
    exact Prod.Lex.left _ _ (by omega)
  · have := Json.sizeOf_lt_of_member? _hp
    simp only [Json.obj.sizeOf_spec] at this
    exact Prod.Lex.left _ _ (by omega)
  · have := Json.sizeOf_lt_of_member? _ha
    exact Prod.Lex.left _ _ (by omega)

/-- The fields of properties. -/
def fieldsOf (properties : List (String × Json)) (required : List String) (path : Path) :
    Result (List Field) :=
  match properties with
  | [] => return []
  | (name, value) :: rest => do
    let type ← schemaOf value (path ++ [.name name])
    let field ← propertyField name value type required
    return field :: (← fieldsOf rest required path)
termination_by (sizeOf properties, 0)
decreasing_by
  · simp only [List.cons.sizeOf_spec, Prod.mk.sizeOf_spec]
    exact Prod.Lex.left _ _ (by omega)
  · simp only [List.cons.sizeOf_spec]
    exact Prod.Lex.left _ _ (by omega)

end

/-- The identifier of the dialect that a document declares. -/
def declaredUri (members : List (String × Json)) : Result (Option String) :=
  match Json.memberOrNull members "$schema" with
  | .null => return none
  | .str uri => return some uri
  | _ => fail .schemaUriNotString [.name "$schema"]

/-- The document of a JSON value. -/
def ofJson (value : Json) : Result Document :=
  match value with
  | .obj members => do
    let uri ← declaredUri members
    let root ← schemaOf value []
    return { format := .jsonSchema, root := root, schemaUri := uri }
  | _ => fail .documentNotObject []

end SchemaReview.JsonSchema
