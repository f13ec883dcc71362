import SchemaReview.Compatibility.Mode
import SchemaReview.Schema.Signature

/-!
# Reading data with another type

Whether data written with one type resolves against another, at the level of types: the fields of
named types that match are compared elsewhere. All members of a written union must be readable; a
read union needs one member that can read.
-/
namespace SchemaReview

/-- The types that data of a primitive type can be read as, besides its own. -/
def promotions : String → List String
  | "int" => ["long", "float", "double"]
  | "long" => ["float", "double"]
  | "float" => ["double"]
  | "string" => ["bytes"]
  | "bytes" => ["string"]
  | _ => []

namespace Schema

/-- Kinds that resolve by name. -/
def resolvesByName (s : Schema) : Bool := s.isNamed || s.kind == .reference

/-- The name that a named type or a reference resolves by; its kind if it has none or if names are
only labels. -/
def resolutionName (byName : Bool) (s : Schema) : Json :=
  if s.kind == .reference then .str (presentOr s.typeName "unknown")
  else if byName && s.qualifiedName.isTruthy then s.qualifiedName
  else .str s.kind.text

/-- Whether data of one primitive type resolves against another. -/
def canReadPrimitive (reader writer : Schema) : Bool :=
  if reader.typeName = some "fixed" ∨ writer.typeName = some "fixed" then
    reader.typeName == writer.typeName && reader.qualifiedName.equals writer.qualifiedName &&
    reader.size == writer.size
  else
    reader.typeName == writer.typeName ||
    match reader.typeName, writer.typeName with
    | some r, some w => (promotions w).contains r
    | _, _ => false

theorem sizeOf_lt_of_mem_members {s m : Schema} (h : m ∈ s.members) : sizeOf m < sizeOf s := by
  have := List.sizeOf_lt_of_mem h
  cases s
  simp only [Schema.mk.sizeOf_spec] at *
  omega

theorem sizeOf_lt_of_items {s i : Schema} (h : s.items = some i) : sizeOf i < sizeOf s := by
  cases s
  simp only at h
  subst h
  simp only [Schema.mk.sizeOf_spec, Option.some.sizeOf_spec]
  omega

theorem sizeOf_lt_of_values {s v : Schema} (h : s.values = some v) : sizeOf v < sizeOf s := by
  cases s
  simp only at h
  subst h
  simp only [Schema.mk.sizeOf_spec, Option.some.sizeOf_spec]
  omega

/-- Whether data written with `writer` can be read with `reader`. With `byName` false, the names of
records and enums are ignored. -/
def canRead (byName : Bool) (reader writer : Schema) : Bool :=
  if writer.kind = .union then
    writer.members.attach.all fun ⟨m, _⟩ => canRead byName reader m
  else if reader.kind = .union then
    reader.members.attach.any fun ⟨m, _⟩ => canRead byName m writer
  else if reader.kind = .primitive ∧ reader.typeName = some "any" then true
  else if reader.resolvesByName && writer.resolvesByName then
    (reader.kind == .reference || writer.kind == .reference || reader.kind == writer.kind) &&
    (reader.resolutionName byName).equals (writer.resolutionName byName)
  else if reader.kind ≠ writer.kind then false
  else
    match reader.kind with
    | .array =>
      match _hr : reader.items, _hw : writer.items with
      | some r, some w => canRead byName r w
      | _, _ => false
    | .map =>
      match _hr : reader.values, _hw : writer.values with
      | some r, some w => canRead byName r w
      | _, _ => false
    | .primitive => canReadPrimitive reader writer
    | _ => (reader.resolutionName byName).equals (writer.resolutionName byName)
termination_by sizeOf reader + sizeOf writer
decreasing_by
  · have := sizeOf_lt_of_mem_members ‹_›; omega
  · have := sizeOf_lt_of_mem_members ‹_›; omega
  · have := sizeOf_lt_of_items _hr
    have := sizeOf_lt_of_items _hw
    omega
  · have := sizeOf_lt_of_values _hr
    have := sizeOf_lt_of_values _hw
    omega

/-- Whether replacing one type by another keeps old or new readers from reading, as far as the
mode asks. -/
def isBreakingChange (byName : Bool) (mode : Mode) (before after : Schema) : Bool :=
  (mode.checksBackward && !canRead byName after before) ||
  (mode.checksForward && !canRead byName before after)

end Schema
end SchemaReview
