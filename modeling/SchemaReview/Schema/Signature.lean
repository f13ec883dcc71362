import SchemaReview.Failure
import SchemaReview.Schema.Basic

/-!
# Type signatures

A compact, comparable description of a type. Named types are described by their qualified name, or,
when names are only labels, by their kind. A name that is not a text is its own signature; a union
with such a member has none.
-/
namespace SchemaReview

/-- The first element that is not a text, as the reason why a list cannot be joined. -/
def firstNonText? (items : List Json) (position : Nat) : Option TypeFault :=
  match items with
  | [] => none
  | .str _ :: rest => firstNonText? rest (position + 1)
  | other :: _ => some (.nonTextInSequence position other.typeName)

/-- A text that is present and not empty. -/
def presentOr (s : Option String) (fallback : String) : String :=
  match s with
  | some t => if t = "" then fallback else t
  | none => fallback

namespace Schema

/-- The signature of a primitive type. -/
def primitiveSignature (s : Schema) : String :=
  if s.typeName = some "fixed" then
    let size := match s.size with | some n => toString n | none => "None"
    "fixed:" ++ s.qualifiedName.toText ++ "[" ++ size ++ "]"
  else
    let base := presentOr s.typeName "unknown"
    if s.logicalType.isTruthy then base ++ "(" ++ s.logicalType.toText ++ ")" else base

mutual

def typeSignature (byName : Bool) (node : Schema) : Except TypeFault Json :=
  match node with
  | { kind, name, qualifier, documentation, fields, typeName, logicalType, size, symbols,
      symbolValues, items, values, members, additionalProperties } =>
    let s : Schema :=
      { kind, name, qualifier, documentation, fields, typeName, logicalType, size, symbols,
        symbolValues, items, values, members, additionalProperties }
    match kind with
    | .primitive => .ok (.str s.primitiveSignature)
    | .reference => .ok (.str (presentOr typeName "unknown"))
    | .array => do return .str ("array<" ++ (← innerSignature byName items) ++ ">")
    | .map => do return .str ("map<" ++ (← innerSignature byName values) ++ ">")
    | .union => do
      let parts ← memberSignatures byName members
      match firstNonText? parts 0 with
      | some fault => throw fault
      | none => return .str ("union[" ++ ",".intercalate (parts.map Json.toText) ++ "]")
    | _ =>
      if byName && s.qualifiedName.isTruthy then .ok s.qualifiedName else .ok (.str kind.text)

/-- The signature of what an array or a map holds, as text. -/
def innerSignature (byName : Bool) (inner : Option Schema) : Except TypeFault String :=
  match inner with
  | none => .ok "?"
  | some s => do return (← typeSignature byName s).toText

def memberSignatures (byName : Bool) (members : List Schema) : Except TypeFault (List Json) :=
  match members with
  | [] => .ok []
  | m :: rest => do
    let signature ← typeSignature byName m
    return signature :: (← memberSignatures byName rest)

end

/-- The signature under which a named type and a reference to it are equal. -/
def namedSignature (byName : Bool) (s : Schema) : Except TypeFault Json :=
  if byName && s.kind.isNamed && s.qualifiedName.isTruthy then .ok s.qualifiedName
  else s.typeSignature byName

end Schema
end SchemaReview
