import SchemaReview.Digest.Sha256
import SchemaReview.Json.Writer
import SchemaReview.Schema.Basic

/-!
# Fingerprints

A short hash of the structure of a tree. What is hashed is the canonical text of all attributes
that are present, so the formatting of the text that the tree came from does not count.
-/
namespace SchemaReview

namespace Schema

mutual

/-- All attributes that are present, as a JSON value. -/
def payload (node : Schema) : Json :=
  match node with
  | { kind, name, qualifier, documentation, fields, typeName, logicalType, size, symbols,
      symbolValues, items, values, members, additionalProperties } =>
    .obj ([("kind", .str kind.text)] ++
      Json.present "name" name ++
      Json.present "namespace" (Json.ofOption .str qualifier) ++
      Json.present "documentation" documentation ++
      Json.present "type_name" (Json.ofOption .str typeName) ++
      Json.present "logical_type" logicalType ++
      Json.present "size" (Json.ofOption .int size) ++
      Json.present "additional_properties" (Json.ofOption .bool additionalProperties) ++
      (if symbols.isEmpty then [] else [("symbols", .arr (symbols.map .str))]) ++
      (if symbolValues.isEmpty then [] else [("symbol_values", .arr (symbolValues.map .int))]) ++
      innerPayload "items" items ++
      innerPayload "values" values ++
      (if members.isEmpty then [] else [("members", .arr (memberPayloads members))]) ++
      (if fields.isEmpty then [] else [("fields", .arr (fieldPayloads fields))]))

def innerPayload (key : String) (inner : Option Schema) : List (String × Json) :=
  match inner with
  | none => []
  | some s => [(key, payload s)]

def memberPayloads (members : List Schema) : List Json :=
  match members with
  | [] => []
  | m :: rest => payload m :: memberPayloads rest

def fieldPayloads (fields : List Field) : List Json :=
  match fields with
  | [] => []
  | f :: rest => fieldPayload f :: fieldPayloads rest

def fieldPayload (f : Field) : Json :=
  match f with
  | { name, type, documentation, hasDefault, default, tag, label, raw := _ } =>
    .obj [("name", .str name), ("type", payload type), ("doc", documentation),
      ("has_default", .bool hasDefault), ("default", default), ("tag", Json.ofOption .int tag),
      ("label", Json.ofOption .str label)]

end

/-- The text that is hashed. -/
def payloadText (s : Schema) : String := s.payload.write .canonical

/-- The first sixteen hexadecimal digits of the hash. -/
def fingerprint (s : Schema) : String :=
  String.ofList ((Sha256.hexDigest s.payloadText.toUTF8.toList).toList.take 16)

end Schema
end SchemaReview
