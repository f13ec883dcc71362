import SchemaReview.Failure
import SchemaReview.Schema.Basic

/-!
# Attributes that make up a node

Only containers have fields, with distinct names; values of symbols are given for all symbols or
for none; a field has a name, and a default value only if it declares one.
-/
namespace SchemaReview

/-- The first name that occurs a second time. -/
def firstRepeated? (names : List String) (seen : List String) : Option String :=
  match names with
  | [] => none
  | n :: rest => if seen.contains n then some n else firstRepeated? rest (n :: seen)

namespace Schema

/-- The name by which error texts call a node: its qualified name or its kind. -/
def label (s : Schema) : String :=
  if s.qualifiedName.isTruthy then s.qualifiedName.toText else s.kind.text

/-- The node itself if its attributes fit together. -/
def checked (s : Schema) : Except ModelFault Schema :=
  if !s.fields.isEmpty && !s.kind.isContainer then .error (.fieldsNotAllowed s.kind)
  else
    match firstRepeated? (s.fields.map (·.name)) [] with
    | some name => .error (.duplicateField name s.label)
    | none =>
      if !s.symbolValues.isEmpty && s.symbolValues.length != s.symbols.length then
        .error .unalignedSymbolValues
      else .ok s

end Schema

/-- The field itself if its attributes fit together. -/
def FieldOf.checked (f : Field) : Except ModelFault Field :=
  if f.name = "" then .error .emptyFieldName
  else if !f.hasDefault && !f.default.isNull then .error (.defaultNotDeclared f.name)
  else .ok f

end SchemaReview
