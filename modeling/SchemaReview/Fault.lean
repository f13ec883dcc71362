/-!
# Why a text is no schema

What can be wrong with an Avro schema, with an interface definition and with a JSON Schema.
-/
namespace SchemaReview.Avro

inductive Fault where
  | emptyUnion
  | notASchema (typeName : String)
  | missingType
  | typeNotString (typeName : String)
  | missingItems
  | missingValues
  | redefined (fullName : String)
  | missingName (label : String)
  | namespaceNotString (label name : String)
  | missingFields (record : String)
  | fieldsNotArray (record : String)
  | fieldNotObject (position : Nat) (record : String)
  | fieldWithoutName (position : Nat) (record : String)
  | fieldWithoutType (field : String)
  | duplicateField (field record : String)
  | missingSymbols (enum : String)
  | symbolsNotStrings (enum : String)
  | duplicateSymbols (enum : String)
  | missingSize (fixed : String)
deriving DecidableEq, Repr

def Fault.text : Fault → String
  | .emptyUnion => "Union must contain at least one type"
  | .notASchema t => "Schema node must be a string, array or object, got " ++ t
  | .missingType => "Schema is missing required key 'type'"
  | .typeNotString t => "Key 'type' must be a string, got " ++ t
  | .missingItems => "Array schema is missing required key 'items'"
  | .missingValues => "Map schema is missing required key 'values'"
  | .redefined n => "Named type '" ++ n ++ "' is defined more than once"
  | .missingName l => l ++ " schema is missing required key 'name'"
  | .namespaceNotString l n => l ++ " '" ++ n ++ "' has a non-string 'namespace'"
  | .missingFields r => "Record '" ++ r ++ "' is missing required key 'fields'"
  | .fieldsNotArray r => "Record '" ++ r ++ "' key 'fields' must be an array"
  | .fieldNotObject i r =>
    "Field at index " ++ toString i ++ " of record '" ++ r ++ "' must be an object"
  | .fieldWithoutName i r =>
    "Field at index " ++ toString i ++ " of record '" ++ r ++ "' is missing required key 'name'"
  | .fieldWithoutType f => "Field '" ++ f ++ "' is missing required key 'type'"
  | .duplicateField f r => "Duplicate field '" ++ f ++ "' in record '" ++ r ++ "'"
  | .missingSymbols e => "Enum '" ++ e ++ "' is missing required key 'symbols'"
  | .symbolsNotStrings e => "Enum '" ++ e ++ "' symbols must be strings"
  | .duplicateSymbols e => "Enum '" ++ e ++ "' declares duplicate symbols"
  | .missingSize f => "Fixed '" ++ f ++ "' is missing required integer key 'size'"

end SchemaReview.Avro

namespace SchemaReview.Protobuf

inductive Fault where
  | unexpectedClose
  | unterminatedBlock
  | redeclared (key : String)
  | duplicateField (field message : String)
  | duplicateValue (symbol enum : String)
deriving DecidableEq, Repr

def Fault.text : Fault → String
  | .unexpectedClose => "Unexpected '\x7d' without a matching '\x7b'"
  | .unterminatedBlock => "Unterminated block: missing '\x7d'"
  | .redeclared k => "'" ++ k ++ "' is declared more than once"
  | .duplicateField f m => "Duplicate field '" ++ f ++ "' in message '" ++ m ++ "'"
  | .duplicateValue s e => "Duplicate value '" ++ s ++ "' in enum '" ++ e ++ "'"

end SchemaReview.Protobuf

namespace SchemaReview.JsonSchema

inductive Fault where
  | documentNotObject
  | schemaUriNotString
  | notASchema (typeName : String)
  | enumNotArray
  | emptyAlternatives (keyword : String)
  | typeEntryNotString (typeName : String)
  | emptyTypeList
  | typeNotString (typeName : String)
  | unknownType (name : String)
  | propertiesNotObject
  | requiredNotStrings
  | additionalPropertiesNotSchema
deriving DecidableEq, Repr

def Fault.text : Fault → String
  | .documentNotObject => "JSON Schema document must be an object"
  | .schemaUriNotString => "'$schema' must be a string"
  | .notASchema t => "Schema must be an object or boolean, got " ++ t
  | .enumNotArray => "'enum' must be an array"
  | .emptyAlternatives k => "'" ++ k ++ "' must be a non-empty array"
  | .typeEntryNotString t => "'type' entries must be strings, got " ++ t
  | .emptyTypeList => "'type' must not be an empty array"
  | .typeNotString t => "'type' must be a string or an array, got " ++ t
  | .unknownType n => "Unknown JSON Schema type '" ++ n ++ "'"
  | .propertiesNotObject => "'properties' must be an object"
  | .requiredNotStrings => "'required' must be an array of strings"
  | .additionalPropertiesNotSchema => "'additionalProperties' must be a boolean or a schema"

end SchemaReview.JsonSchema
