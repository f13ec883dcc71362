import SchemaReview.Failure
import SchemaReview.Schema.Basic

/-!
# Avro schemas from JSON values

A value is read into a tree of nodes while the full names defined so far are kept. A record is
defined before its fields, so that it can contain itself. A written type name means the type of
that name in the namespace around it; if that one is not defined but the name as written is, it
means the latter.

A dotted name carries its own namespace; a name without a dot belongs to the namespace around it.
-/
namespace SchemaReview.Avro

/-! ### Names -/

/-- The part of a text before its last dot and the part after it, if it has a dot. -/
def splitLastDot (s : List Char) : Option (List Char × List Char) :=
  match s with
  | [] => none
  | c :: rest =>
    match splitLastDot rest with
    | some (before, after) => some (c :: before, after)
    | none => if c == '.' then some ([], rest) else none

/-- A name without its namespace, and the namespace it belongs to. -/
def splitName (name : String) (enclosing : Option String) : String × Option String :=
  match splitLastDot name.toList with
  | some (before, after) =>
    (String.ofList after, if before.isEmpty then none else some (String.ofList before))
  | none => (name, enclosing)

/-- A name with its namespace before it, if there is one. -/
def qualify (name : String) (space : Option String) : String :=
  match space with
  | some q => if q = "" then name else q ++ "." ++ name
  | none => name

/-- The types that need no definition. -/
def primitives : List String :=
  ["null", "boolean", "int", "long", "float", "double", "bytes", "string"]

/-! ### Reading -/

/-- The full names defined so far; a type whose own name is empty has none. -/
abbrev Definitions := List (Option String)

abbrev Builder := StateT Definitions (Except ParseError)

def fail {α : Type} (fault : Fault) (path : Path) : Builder α :=
  throw ⟨.avro fault, none, path⟩

/-- The node that a type name stands for. -/
def typeNamed (name : String) (space : Option String) : Builder Schema := do
  if primitives.contains name then return { kind := .primitive, typeName := some name }
  let (short, q) := splitName name space
  let full := qualify short q
  let defined ← get
  if !defined.contains (some full) && defined.contains (some name) then
    return { kind := .reference, typeName := some name }
  return { kind := .reference, typeName := some full }

/-- Records the definition of a type. -/
def define (name : String) (space : Option String) (path : Path) : Builder Unit := do
  let full := if name = "" then none else some (qualify name space)
  if (← get).contains full then
    fail (.redefined (full.getD "None")) path
  modify fun defined => full :: defined

/-- The name and namespace that a definition declares. -/
def declaredName (members : List (String × Json)) (path : Path) (space : Option String)
    (label : String) : Builder (String × Option String) := do
  match Json.memberOrNull members "name" with
  | .str name =>
    if name = "" then fail (.missingName label) path
    match Json.memberOrNull members "namespace" with
    | .null => return splitName name space
    | .str q => return splitName name (if q = "" then space else some q)
    | _ => fail (.namespaceNotString label name) path
  | _ => fail (.missingName label) path

/-- The strings of a list that holds nothing else. -/
def strings? : List Json → Option (List String)
  | [] => some []
  | .str s :: rest => (strings? rest).map (s :: ·)
  | _ :: _ => none

def enumOf (members : List (String × Json)) (path : Path) (space : Option String) :
    Builder Schema := do
  let (name, q) ← declaredName members path space "Enum"
  match Json.memberOrNull members "symbols" with
  | .arr items =>
    match strings? items with
    | none => fail (.symbolsNotStrings name) path
    | some symbols =>
      if symbols.eraseDups.length ≠ symbols.length then fail (.duplicateSymbols name) path
      define name q path
      return {
        kind := .enum, name := .str name, qualifier := q,
        documentation := Json.memberOrNull members "doc", symbols := symbols }
  | _ => fail (.missingSymbols name) path

def fixedOf (members : List (String × Json)) (path : Path) (space : Option String) :
    Builder Schema := do
  let (name, q) ← declaredName members path space "Fixed"
  match Json.memberOrNull members "size" with
  | .int size =>
    define name q path
    return {
      kind := .primitive, typeName := some "fixed", name := .str name, qualifier := q,
      size := some size, logicalType := Json.memberOrNull members "logicalType",
      documentation := Json.memberOrNull members "doc" }
  | _ => fail (.missingSize name) path

mutual

/-- The node of a value at a path, inside a namespace. -/
def schemaOf (node : Json) (path : Path) (space : Option String) : Builder Schema :=
  match node with
  | .str name => typeNamed name space
  | .arr items =>
    if items.isEmpty then fail .emptyUnion path
    else do return { kind := .union, members := ← membersOf items 0 path space }
  | .obj members =>
    match _h : Json.member? members "type" with
    | none => fail .missingType path
    | some (.obj inner) => schemaOf (.obj inner) path space
    | some (.arr inner) => schemaOf (.arr inner) path space
    | some (.str type) =>
      if type = "record" ∨ type = "error" then recordOf members path space
      else if type = "enum" then enumOf members path space
      else if type = "array" then
        match _h' : Json.member? members "items" with
        | none => fail .missingItems path
        | some items => do
          return {
            kind := .array, items := some (← schemaOf items path space),
            documentation := Json.memberOrNull members "doc" }
      else if type = "map" then
        match _h' : Json.member? members "values" with
        | none => fail .missingValues path
        | some values => do
          return {
            kind := .map, values := some (← schemaOf values path space),
            documentation := Json.memberOrNull members "doc" }
      else if type = "fixed" then fixedOf members path space
      else if primitives.contains type then
        return {
          kind := .primitive, typeName := some type,
          logicalType := Json.memberOrNull members "logicalType",
          documentation := Json.memberOrNull members "doc" }
      else typeNamed type space
    | some other => fail (.typeNotString other.typeName) path
  | other => fail (.notASchema other.typeName) path
termination_by sizeOf node
decreasing_by
  · simp only [Json.arr.sizeOf_spec]
    omega
  · have := Json.sizeOf_lt_of_member? _h
    simp only [Json.obj.sizeOf_spec] at *
    omega
  · have := Json.sizeOf_lt_of_member? _h
    simp only [Json.obj.sizeOf_spec]
    omega
  · simp only [Json.obj.sizeOf_spec]
    omega
  · have := Json.sizeOf_lt_of_member? _h'
    simp only [Json.obj.sizeOf_spec]
    omega
  · have := Json.sizeOf_lt_of_member? _h'
    simp only [Json.obj.sizeOf_spec]
    omega

/-- The members of a union from a position on. -/
def membersOf (items : List Json) (position : Nat) (path : Path) (space : Option String) :
    Builder (List Schema) :=
  match items with
  | [] => return []
  | item :: rest => do
    let schema ← schemaOf item (path ++ [.index position]) space
    return schema :: (← membersOf rest (position + 1) path space)
termination_by sizeOf items

def recordOf (members : List (String × Json)) (path : Path) (space : Option String) :
    Builder Schema := do
  let (name, q) ← declaredName members path space "Record"
  match _h : Json.member? members "fields" with
  | none => fail (.missingFields name) path
  | some (.arr items) =>
    define name q path
    let fields ← fieldsOf items 0 name path q []
    return {
      kind := .record, name := .str name, qualifier := q,
      documentation := Json.memberOrNull members "doc", fields := fields }
  | some _ => fail (.fieldsNotArray name) path
termination_by sizeOf members
decreasing_by
  have := Json.sizeOf_lt_of_member? _h
  simp only [Json.arr.sizeOf_spec] at this
  omega

/-- The fields of a record from a position on, given the names already `seen`. -/
def fieldsOf (items : List Json) (position : Nat) (record : String) (path : Path)
    (space : Option String) (seen : List String) : Builder (List Field) :=
  match items with
  | [] => return []
  | .obj members :: rest =>
    match Json.memberOrNull members "name" with
    | .str name =>
      if name = "" then fail (.fieldWithoutName position record) path
      else
        let fieldPath := path ++ [.name name]
        match _h : Json.member? members "type" with
        | none => fail (.fieldWithoutType name) fieldPath
        | some type =>
          if seen.contains name then fail (.duplicateField name record) fieldPath
          else do
            let schema ← schemaOf type fieldPath space
            let field : Field := {
              name := name, type := schema, documentation := Json.memberOrNull members "doc",
              hasDefault := Json.hasMember members "default",
              default := Json.memberOrNull members "default" }
            return field :: (← fieldsOf rest (position + 1) record path space (name :: seen))
    | _ => fail (.fieldWithoutName position record) path
  | _ :: _ => fail (.fieldNotObject position record) path
termination_by sizeOf items
decreasing_by
  · have := Json.sizeOf_lt_of_member? _h
    simp only [List.cons.sizeOf_spec, Json.obj.sizeOf_spec]
    omega
  · simp only [List.cons.sizeOf_spec]
    omega

end

/-- The schema of a JSON value. -/
def ofJson (value : Json) : Except ParseError Schema := (schemaOf value [] none).run' []

end SchemaReview.Avro
