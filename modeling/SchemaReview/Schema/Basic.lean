import SchemaReview.Datum
import SchemaReview.Issue
import SchemaReview.Schema.Kind

/-!
# The normalized schema model

One tree of nodes serves all three schema languages. Each node has a kind and the attributes that
its kind uses; the others keep their empty value. Names, documentation and logical types are taken
from the text as they are, so they can be any JSON value, and `null` stands for their absence.
-/
namespace SchemaReview

/-- A field of a container whose type is given by a `τ`. -/
structure FieldOf (τ : Type) where
  name : String
  type : τ
  documentation : Json := .null
  hasDefault : Bool := false
  default : Json := .null
  /-- The field number of an interface definition. -/
  tag : Option Int := none
  /-- The cardinality word of an interface definition, or `oneof`. -/
  label : Option String := none
  /-- The text that the field was read from. It takes no part in equality. -/
  raw : Option String := none
deriving Repr

structure Schema where
  kind : Kind
  name : Json := .null
  /-- The namespace of the name. -/
  qualifier : Option String := none
  documentation : Json := .null
  fields : List (FieldOf Schema) := []
  typeName : Option String := none
  logicalType : Json := .null
  size : Option Int := none
  symbols : List String := []
  symbolValues : List Int := []
  items : Option Schema := none
  values : Option Schema := none
  members : List Schema := []
  additionalProperties : Option Bool := none
deriving Repr

abbrev Field := FieldOf Schema

/-- A parsed text: the root node and what the text declares as a whole. -/
structure Document where
  format : Format
  root : Schema
  syntaxLevel : Option String := none
  package : Option String := none
  schemaUri : Option String := none
  warnings : List Issue := []
deriving Repr

namespace Schema

/-- The name with its namespace; `null` for a node without a name. -/
def qualifiedName (s : Schema) : Json :=
  if s.name.isTruthy then
    match s.qualifier with
    | some q => if q = "" then s.name else .str (q ++ "." ++ s.name.toText)
    | none => s.name
  else .null

def isNamed (s : Schema) : Bool := s.kind.isNamed

/-- Whether the node is the null type. -/
def isNull (s : Schema) : Bool := s.kind == .primitive && s.typeName == some "null"

/-- The field with a given name. -/
def field? (s : Schema) (name : String) : Option Field := s.fields.find? fun f => f.name == name

end Schema

/-- The symbols of a field whose type is an enum. -/
def FieldOf.symbols (f : Field) : List String :=
  if f.type.kind = .enum then f.type.symbols else []

end SchemaReview
