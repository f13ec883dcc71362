import SchemaReview.JsonSchema.Metaschema
import SchemaReview.Source.Basic

/-!
# Structural checks

A JSON Schema has to satisfy the schema of the dialect that it declares, and an interface definition
has to declare something.
-/
namespace SchemaReview

open JsonSchema

/-- The dialect that the declaration of a schema names. -/
def declaredDialect (declaration : Json) : Except Failure Dialect :=
  match declaration with
  | .str address =>
    match addressFault? address.toList with
    | some fault => .error (.value (.address fault))
    | none => .ok (Dialect.ofAddress address)
  | .arr _ => .error (.type (.unhashable "list"))
  | .obj _ => .error (.type (.unhashable "dict"))
  | other =>
    if other.isTruthy then .error (.noAttribute other.typeName "decode") else .ok Dialect.fallback

/-- Whether a text occurs in another one. -/
def occursIn (part : List Char) : List Char → Bool
  | [] => part.isEmpty
  | c :: rest => part.isPrefixOf (c :: rest) || occursIn part rest

/-- The dialect of a decoded schema. Only objects declare one, and what is no schema at all is left
to the check, unless a declaration cannot even be looked for. -/
def dialectOf (schema : Json) : Except Failure Dialect :=
  match schema with
  | .obj members =>
    match Json.member? members "$schema" with
    | some declaration => declaredDialect declaration
    | none => .ok Dialect.fallback
  | .arr items =>
    if items.any fun v => match v with | .str s => s == "$schema" | _ => false
    then .error (.type .textIndexOfList) else .ok Dialect.fallback
  | .str s =>
    if occursIn "$schema".toList s.toList then .error (.type .textIndexOfText)
    else .ok Dialect.fallback
  | .bool _ => .ok Dialect.fallback
  | other => .error (.type (.noMembershipTest other.typeName))

/-- What is wrong with the text of a JSON Schema, if anything. -/
def checkMetaschema (text : String) : Except Failure (Option String) :=
  match Json.ofText text with
  | .error e => .error (.undecodable e text)
  | .ok schema => do
    match (← dialectOf schema).complaint? schema with
    | .ok complaint => return complaint.map Complaint.text
    | .error fault => throw (.pattern fault)

/-- Whether an interface definition declares anything. -/
def hasDeclaration (d : Document) : Bool :=
  (match d.syntaxLevel with | some s => s != "" | none => false) ||
  (match d.package with | some p => p != "" | none => false) ||
  d.root.fields.any fun f => f.type.kind == .message

def emptyDefinitionMessage : String := "No syntax, package or message declaration found"

/-- What is wrong with a parsed text, if anything. -/
def structuralError (d : Document) (text : String) : Except Failure (Option String) :=
  match d.format with
  | .protobuf => .ok (if hasDeclaration d then none else some emptyDefinitionMessage)
  | .jsonSchema => checkMetaschema text
  | .avro => .ok none

end SchemaReview
