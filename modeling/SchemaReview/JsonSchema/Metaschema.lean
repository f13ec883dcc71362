import SchemaReview.JsonSchema.Address
import SchemaReview.JsonSchema.Constraint

/-!
# Schemas of JSON Schemas

Each dialect of JSON Schema constrains its schemas by a schema of its own. A keyword that is not
listed is unconstrained. The order of the keywords is the order in which they are checked.
-/
namespace SchemaReview.JsonSchema

inductive Dialect where
  | draft4
  | draft6
  | draft7
  | draft201909
  | draft202012
deriving DecidableEq, Repr

abbrev Keywords := List (String × List Constraint)

namespace Metaschema

def string : List Constraint := [.type [.string]]

def boolean : List Constraint := [.type [.boolean]]

def number : List Constraint := [.type [.number]]

def positive : List Constraint := [.type [.number], .aboveZero]

def count : List Constraint := [.type [.integer], .atLeastZero]

def list : List Constraint := [.type [.array]]

def pattern : List Constraint := [.type [.string], .regex]

def schemas : List Constraint := [.type [.array], .nonEmpty, .items [.schema]]

def schemaOrSchemas : List Constraint := [.anyOf [[.schema], schemas]]

def schemaByName : List Constraint := [.type [.object], .eachProperty [.schema]]

def schemaByPattern : List Constraint :=
  [.type [.object], .eachProperty [.schema], .propertyNames [.regex]]

def strings : List Constraint := [.type [.array], .items string, .unique]

/-- The words that name types, in the order in which messages list them. -/
def typeWords : List String :=
  ["array", "boolean", "integer", "null", "number", "object", "string"]

def typeOrTypes : List Constraint :=
  [.anyOf [[.oneOf typeWords], [.type [.array], .items [.oneOf typeWords], .nonEmpty, .unique]]]

def dependencies : List Constraint :=
  [.type [.object], .eachProperty [.anyOf [[.schema], strings]]]

/-- A schema that is an object or a boolean. -/
def schemaWith (keywords : Keywords) : List Constraint :=
  [.type [.object, .boolean], .properties keywords]

/-- The count of the fourth draft, which has to be written without a fraction. -/
def plainCount : List Constraint := [.type [.plainInteger], .atLeastZero]

/-- The list of texts of the fourth draft, which has at least one. -/
def someStrings : List Constraint := [.type [.array], .nonEmpty, .items string, .unique]

def booleanOrSchema : List Constraint := [.anyOf [boolean, [.schema]]]

def draft4 : List Constraint :=
  [.type [.object],
    .properties [
      ("id", string),
      ("$schema", string),
      ("title", string),
      ("description", string),
      ("multipleOf", positive),
      ("maximum", number),
      ("exclusiveMaximum", boolean),
      ("minimum", number),
      ("exclusiveMinimum", boolean),
      ("maxLength", plainCount),
      ("minLength", plainCount),
      ("pattern", pattern),
      ("additionalItems", booleanOrSchema),
      ("items", schemaOrSchemas),
      ("maxItems", plainCount),
      ("minItems", plainCount),
      ("uniqueItems", boolean),
      ("maxProperties", plainCount),
      ("minProperties", plainCount),
      ("required", someStrings),
      ("additionalProperties", booleanOrSchema),
      ("definitions", schemaByName),
      ("properties", schemaByName),
      ("patternProperties", schemaByName),
      ("dependencies", [.type [.object], .eachProperty [.anyOf [[.schema], someStrings]]]),
      ("enum", [.type [.array], .nonEmpty, .unique]),
      ("type", typeOrTypes),
      ("format", string),
      ("allOf", schemas),
      ("anyOf", schemas),
      ("oneOf", schemas),
      ("not", [.schema])],
    .requires "exclusiveMaximum" "maximum",
    .requires "exclusiveMinimum" "minimum"]

/-- The keywords from `examples` to `format`, which the sixth and the seventh draft share. -/
def draft6Middle : Keywords := [
  ("examples", list),
  ("multipleOf", positive),
  ("maximum", number),
  ("exclusiveMaximum", number),
  ("minimum", number),
  ("exclusiveMinimum", number),
  ("maxLength", count),
  ("minLength", count),
  ("pattern", pattern),
  ("additionalItems", [.schema]),
  ("items", schemaOrSchemas),
  ("maxItems", count),
  ("minItems", count),
  ("uniqueItems", boolean),
  ("contains", [.schema]),
  ("maxProperties", count),
  ("minProperties", count),
  ("required", strings),
  ("additionalProperties", [.schema]),
  ("definitions", schemaByName),
  ("properties", schemaByName),
  ("patternProperties", schemaByPattern),
  ("dependencies", dependencies),
  ("propertyNames", [.schema]),
  ("enum", list),
  ("type", typeOrTypes),
  ("format", string)]

def combinators : Keywords :=
  [("allOf", schemas), ("anyOf", schemas), ("oneOf", schemas), ("not", [.schema])]

def conditionals : Keywords := [("if", [.schema]), ("then", [.schema]), ("else", [.schema])]

def draft6 : List Constraint := schemaWith
  ([("$id", string), ("$schema", string), ("$ref", string), ("title", string),
    ("description", string)] ++ draft6Middle ++ combinators)

def draft7 : List Constraint := schemaWith
  ([("$id", string), ("$schema", string), ("$ref", string), ("$comment", string),
    ("title", string), ("description", string), ("readOnly", boolean)] ++ draft6Middle ++
    [("contentMediaType", string), ("contentEncoding", string)] ++ conditionals ++ combinators)

/-! The two latest dialects check one vocabulary after another, and then the schema as a whole. -/

/-- An identifier without a fragment. -/
def identifierPattern : Constraint := .pattern "^[^#]*#?$"

def vocabularies : List Constraint :=
  [.type [.object], .propertyNames string, .eachProperty boolean]

/-- The limits on numbers, texts and lists. -/
def limits : Keywords := [
  ("multipleOf", positive),
  ("maximum", number),
  ("exclusiveMaximum", number),
  ("minimum", number),
  ("exclusiveMinimum", number),
  ("maxLength", count),
  ("minLength", count),
  ("pattern", pattern),
  ("maxItems", count),
  ("minItems", count),
  ("uniqueItems", boolean),
  ("maxContains", count),
  ("minContains", count),
  ("maxProperties", count),
  ("minProperties", count),
  ("required", strings),
  ("dependentRequired", [.type [.object], .eachProperty strings])]

def annotations : Keywords := [
  ("title", string),
  ("description", string),
  ("deprecated", boolean),
  ("readOnly", boolean),
  ("writeOnly", boolean),
  ("examples", list)]

def objectApplicators : Keywords := [
  ("properties", schemaByName),
  ("patternProperties", schemaByPattern),
  ("dependentSchemas", schemaByName),
  ("propertyNames", [.schema])]

def core201909 : Keywords := [
  ("$id", [.type [.string], identifierPattern]),
  ("$schema", string),
  ("$anchor", [.type [.string], .pattern "^[A-Za-z][-A-Za-z0-9.:_]*$"]),
  ("$ref", string),
  ("$recursiveRef", string),
  ("$recursiveAnchor", boolean),
  ("$vocabulary", vocabularies),
  ("$comment", string),
  ("$defs", schemaByName)]

def applicator201909 : Keywords :=
  [("additionalItems", [.schema]), ("unevaluatedItems", [.schema]), ("items", schemaOrSchemas),
    ("contains", [.schema]), ("additionalProperties", [.schema]),
    ("unevaluatedProperties", [.schema])] ++ objectApplicators ++ conditionals ++ combinators

def draft201909 : List Constraint :=
  schemaWith core201909 ++ schemaWith applicator201909 ++
  schemaWith (limits ++ [("enum", list), ("type", typeOrTypes)]) ++ schemaWith annotations ++
  schemaWith [("format", string)] ++
  schemaWith [("contentMediaType", string), ("contentEncoding", string),
    ("contentSchema", [.schema])] ++
  schemaWith [("definitions", schemaByName), ("dependencies", dependencies)]

/-- An anchor of the latest dialect. -/
def anchor : List Constraint := [.type [.string], .pattern "^[A-Za-z_][-A-Za-z0-9._]*$"]

def core202012 : Keywords := [
  ("$id", [.type [.string], identifierPattern]),
  ("$schema", string),
  ("$ref", string),
  ("$anchor", anchor),
  ("$dynamicRef", string),
  ("$dynamicAnchor", anchor),
  ("$vocabulary", vocabularies),
  ("$comment", string),
  ("$defs", schemaByName)]

def applicator202012 : Keywords :=
  [("prefixItems", schemas), ("items", [.schema]), ("contains", [.schema]),
    ("additionalProperties", [.schema])] ++ objectApplicators ++ conditionals ++ combinators

def draft202012 : List Constraint :=
  schemaWith core202012 ++ schemaWith applicator202012 ++
  schemaWith [("unevaluatedItems", [.schema]), ("unevaluatedProperties", [.schema])] ++
  schemaWith ([("type", typeOrTypes), ("enum", list)] ++ limits) ++ schemaWith annotations ++
  schemaWith [("format", string)] ++
  schemaWith [("contentEncoding", string), ("contentMediaType", string),
    ("contentSchema", [.schema])] ++
  schemaWith [("definitions", schemaByName), ("dependencies", dependencies),
    ("$recursiveAnchor", anchor), ("$recursiveRef", string)]

end Metaschema

namespace Dialect

/-- The address of a dialect, without an empty fragment. -/
def address : Dialect → String
  | .draft4 => "http://json-schema.org/draft-04/schema"
  | .draft6 => "http://json-schema.org/draft-06/schema"
  | .draft7 => "http://json-schema.org/draft-07/schema"
  | .draft201909 => "https://json-schema.org/draft/2019-09/schema"
  | .draft202012 => "https://json-schema.org/draft/2020-12/schema"

def all : List Dialect := [.draft4, .draft6, .draft7, .draft201909, .draft202012]

def metaschema : Dialect → List Constraint
  | .draft4 => Metaschema.draft4
  | .draft6 => Metaschema.draft6
  | .draft7 => Metaschema.draft7
  | .draft201909 => Metaschema.draft201909
  | .draft202012 => Metaschema.draft202012

/-- The dialect of schemas that declare none, or one that is not known. -/
def fallback : Dialect := .draft202012

/-- The dialect that an address names. -/
def ofAddress (s : String) : Dialect :=
  (all.find? fun d => d.address.toList == normalAddress s.toList).getD fallback

end Dialect

mutual

/-- The number of levels of a value. -/
def depth : Json → Nat
  | .arr items => depthOfItems items + 1
  | .obj members => depthOfMembers members + 1
  | _ => 1

def depthOfItems : List Json → Nat
  | [] => 0
  | x :: xs => max (depth x) (depthOfItems xs)

def depthOfMembers : List (String × Json) → Nat
  | [] => 0
  | (_, v) :: rest => max (depth v) (depthOfMembers rest)

end

/-- The outcomes about a schema with at most so many levels. Schemas within a schema lie at least
one level deeper. -/
def schemaOutcomes (d : Dialect) : Nat → Json → List Outcome
  | 0, _ => []
  | levels + 1, v => outcomes (schemaOutcomes d levels) d.metaschema v

/-- The first complaint that a dialect has about a schema. -/
def Dialect.complaint? (d : Dialect) (v : Json) : Except Pattern.Fault (Option Complaint) :=
  match (schemaOutcomes d (depth v) v).head? with
  | none => .ok none
  | some outcome => outcome.map some

/-- What is wrong with a schema, in words. -/
def Complaint.text (c : Complaint) : String :=
  "Invalid JSON Schema at '/" ++ c.path.joined ++ "': " ++ c.violation.text

end SchemaReview.JsonSchema
