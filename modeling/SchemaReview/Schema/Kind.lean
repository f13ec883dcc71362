import SchemaReview.Text.Blank
import SchemaReview.Text.Case

/-!
# Schema languages and kinds of nodes
-/
namespace SchemaReview

inductive Format where
  | avro
  | protobuf
  | jsonSchema
deriving DecidableEq, Repr

namespace Format

def text : Format → String
  | .avro => "avro"
  | .protobuf => "protobuf"
  | .jsonSchema => "json"

def all : List Format := [.avro, .protobuf, .jsonSchema]

/-- The language that a text names, in any of the spellings that users and registries use. -/
def ofText? (s : String) : Option Format :=
  match Text.lower (Text.strip s) with
  | "avro" | "avsc" => some .avro
  | "protobuf" | "proto" => some .protobuf
  | "json" | "jsonschema" | "json_schema" => some .jsonSchema
  | _ => none

end Format

inductive Kind where
  | record
  | enum
  | union
  | primitive
  | map
  | array
  | message
  | reference
  | file
deriving DecidableEq, Repr

namespace Kind

def text : Kind → String
  | .record => "record"
  | .enum => "enum"
  | .union => "union"
  | .primitive => "primitive"
  | .map => "map"
  | .array => "array"
  | .message => "message"
  | .reference => "reference"
  | .file => "file"

/-- All kinds, in the order of their declaration. -/
def all : List Kind :=
  [.record, .enum, .union, .primitive, .map, .array, .message, .reference, .file]

def ofText? (s : String) : Option Kind := all.find? fun k => k.text == s

/-- Kinds whose nodes are identified by a name. -/
def isNamed : Kind → Bool
  | .record | .enum | .message => true
  | _ => false

/-- Kinds whose nodes have fields. -/
def isContainer : Kind → Bool
  | .record | .message | .file => true
  | _ => false

/-- Kinds whose nodes are compared member by member: those with fields, and enums. -/
def isStructured : Kind → Bool
  | .enum => true
  | k => k.isContainer

/-- Kinds that count as a level of nesting. -/
def isNesting : Kind → Bool
  | .record | .message => true
  | _ => false

end Kind
end SchemaReview
