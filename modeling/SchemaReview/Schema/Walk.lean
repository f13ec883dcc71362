import SchemaReview.Schema.Basic

/-!
# Traversal

A walk visits a node and then, in order, everything below it. A field adds its name to the path and
a union member its position; the items of an array and the values of a map have the path of their
container. The depth counts the records and messages on the way, the visited node included.
-/
namespace SchemaReview

structure Visit where
  path : Path
  node : Schema
  depth : Nat
  /-- The last field passed on the way. -/
  field : Option Field
deriving Repr

namespace Schema

mutual

/-- The visits of a node reached by a path, below a number of nesting nodes and a field. -/
def walkFrom (node : Schema) (path : Path) (above : Nat) (owner : Option Field) : List Visit :=
  match node with
  | { kind, name, qualifier, documentation, fields, typeName, logicalType, size, symbols,
      symbolValues, items, values, members, additionalProperties } =>
    let depth := if kind.isNesting then above + 1 else above
    let visited : Schema :=
      { kind, name, qualifier, documentation, fields, typeName, logicalType, size, symbols,
        symbolValues, items, values, members, additionalProperties }
    ⟨path, visited, depth, owner⟩ ::
      (match kind with
      | .record | .message | .file => walkFields fields path depth
      | .union => walkMembers members 0 path depth owner
      | .array => walkInner items path depth owner
      | .map => walkInner values path depth owner
      | _ => [])

def walkFields (fields : List Field) (path : Path) (depth : Nat) : List Visit :=
  match fields with
  | [] => []
  | f :: rest => walkField f path depth ++ walkFields rest path depth

def walkField (f : Field) (path : Path) (depth : Nat) : List Visit :=
  match f with
  | { name, type, documentation, hasDefault, default, tag, label, raw } =>
    walkFrom type (path ++ [.name name]) depth
      (some { name, type, documentation, hasDefault, default, tag, label, raw })

def walkMembers (members : List Schema) (position : Nat) (path : Path) (depth : Nat)
    (owner : Option Field) : List Visit :=
  match members with
  | [] => []
  | m :: rest =>
    walkFrom m (path ++ [.index position]) depth owner ++
      walkMembers rest (position + 1) path depth owner

def walkInner (inner : Option Schema) (path : Path) (depth : Nat) (owner : Option Field) :
    List Visit :=
  match inner with
  | none => []
  | some s => walkFrom s path depth owner

end

/-- All nodes of a tree, parents before children. -/
def walk (root : Schema) : List Visit := root.walkFrom [] 0 none

mutual

/-- The record, message or enum that a type stands for. Unions with one member that is not null,
arrays and maps are looked through. -/
def unwrapNamed (node : Schema) : Option Schema :=
  match node with
  | { kind, name, qualifier, documentation, fields, typeName, logicalType, size, symbols,
      symbolValues, items, values, members, additionalProperties } =>
    match kind with
    | .record | .message | .enum =>
      some { kind, name, qualifier, documentation, fields, typeName, logicalType, size, symbols,
             symbolValues, items, values, members, additionalProperties }
    | .union => unwrapSole members
    | .array => unwrapInner items
    | .map => unwrapInner values
    | _ => none

/-- What the only member that is not null stands for. -/
def unwrapSole (members : List Schema) : Option Schema :=
  match members with
  | [] => none
  | m :: rest =>
    if m.isNull then unwrapSole rest
    else if rest.all isNull then unwrapNamed m
    else none

def unwrapInner (inner : Option Schema) : Option Schema :=
  match inner with
  | none => none
  | some s => unwrapNamed s

end

mutual

theorem sizeOf_unwrapNamed_le {s t : Schema} (h : s.unwrapNamed = some t) :
    sizeOf t ≤ sizeOf s := by
  match s with
  | { kind, name, qualifier, documentation, fields, typeName, logicalType, size, symbols,
      symbolValues, items, values, members, additionalProperties } =>
    simp only [unwrapNamed] at h
    split at h
    · cases h; exact Nat.le_refl _
    · cases h; exact Nat.le_refl _
    · cases h; exact Nat.le_refl _
    · have := sizeOf_unwrapSole_le h
      simp only [Schema.mk.sizeOf_spec]
      omega
    · have := sizeOf_unwrapInner_le h
      simp only [Schema.mk.sizeOf_spec]
      omega
    · have := sizeOf_unwrapInner_le h
      simp only [Schema.mk.sizeOf_spec]
      omega
    · cases h

theorem sizeOf_unwrapSole_le {ms : List Schema} {t : Schema} (h : unwrapSole ms = some t) :
    sizeOf t ≤ sizeOf ms := by
  match ms with
  | [] => simp [unwrapSole] at h
  | m :: rest =>
    simp only [unwrapSole] at h
    simp only [List.cons.sizeOf_spec]
    split at h
    · have := sizeOf_unwrapSole_le h
      omega
    · split at h
      · have := sizeOf_unwrapNamed_le h
        omega
      · cases h

theorem sizeOf_unwrapInner_le {o : Option Schema} {t : Schema} (h : unwrapInner o = some t) :
    sizeOf t ≤ sizeOf o := by
  match o with
  | none => simp [unwrapInner] at h
  | some s =>
    simp only [unwrapInner] at h
    have := sizeOf_unwrapNamed_le h
    simp only [Option.some.sizeOf_spec]
    omega

end

theorem sizeOf_fields_lt (s : Schema) : sizeOf s.fields < sizeOf s := by
  cases s
  simp only [Schema.mk.sizeOf_spec]
  omega

end Schema

theorem FieldOf.sizeOf_type_lt (f : Field) : sizeOf f.type < sizeOf f := by
  cases f
  simp only [FieldOf.mk.sizeOf_spec]
  omega

end SchemaReview
