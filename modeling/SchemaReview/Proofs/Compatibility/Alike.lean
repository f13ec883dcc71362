import SchemaReview.Proofs.Compatibility.Signature
import SchemaReview.Proofs.Schema.Payload
import SchemaReview.Proofs.Schema.Shape

/-!
# Attributes of what is hashed alike

A comparison looks at some values in another way than a hash does: it asks whether a value is equal
to itself, takes the text of a logical type member by member, and joins names as texts. In trees
without values for which that matters, what is hashed alike has the same names and is described
alike. Signatures and what a type stands for are given here as equations in the attributes of a
node.
-/
namespace SchemaReview

namespace Json

theorem hasOneOrder_of_isTextOrNull {a : Json} (h : a.isTextOrNull = true) :
    a.hasOneOrder = true := by
  cases a with
  | null | str => rfl
  | _ => cases h

theorem eq_of_sorted_eq {a b : Json} (ha : a.hasOneOrder = true) (hb : b.hasOneOrder = true)
    (h : a.sorted = b.sorted) : a = b := by
  rwa [sorted_of_hasOneOrder ha, sorted_of_hasOneOrder hb] at h

end Json

/-- Whether the values of a field are equal to themselves. -/
def FieldOf.hidesNothing (f : Field) : Bool := !f.documentation.isNaN && !f.default.isNaN

namespace Schema

/-- Whether a node holds no value that a comparison tells from its like. -/
def hidesNothing (byName : Bool) (s : Schema) : Bool :=
  !s.name.isNaN && !s.documentation.isNaN && s.logicalType.hasOneOrder &&
    (s.name.isTextOrNull || !(byName || s.typeName == some "fixed")) &&
    s.fields.all FieldOf.hidesNothing

/-- Whether no node of a tree holds a value that a comparison tells from its like. -/
def IsTransparent (byName : Bool) (s : Schema) : Prop :=
  ∀ t ∈ s.nodes, t.hidesNothing byName = true

section

variable {byName : Bool} {s t : Schema}

namespace IsTransparent

theorem node (h : s.IsTransparent byName) (ht : t ∈ s.nodes) : t.IsTransparent byName :=
  fun u hu => h u (nodes_subset_of_node ht hu)

theorem child (h : s.IsTransparent byName) (ht : t ∈ s.children) : t.IsTransparent byName :=
  h.node (mem_nodes_of_child ht t.self_mem_nodes)

theorem self (h : s.IsTransparent byName) : s.name.isNaN = false ∧
    s.documentation.isNaN = false ∧ s.logicalType.hasOneOrder = true ∧
    (byName = true ∨ s.typeName = some "fixed" → s.name.isTextOrNull = true) ∧
    ∀ f ∈ s.fields, f.documentation.isNaN = false ∧ f.default.isNaN = false := by
  have self := h s s.self_mem_nodes
  simp only [hidesNothing, Bool.and_eq_true, Bool.or_eq_true, Bool.not_eq_true', List.all_eq_true,
    FieldOf.hidesNothing] at self
  obtain ⟨⟨⟨⟨name, documentation⟩, logical⟩, text⟩, fields⟩ := self
  refine ⟨name, documentation, logical, fun counts => ?_, fields⟩
  obtain text | free := text
  · exact text
  · rw [Bool.or_eq_false_iff, beq_eq_false_iff_ne] at free
    obtain named | fixed := counts
    · rw [named] at free
      cases free.1
    · exact (free.2 fixed).elim

theorem textName (h : s.IsTransparent byName) (counts : byName = true ∨ s.typeName = some "fixed") :
    s.name.isTextOrNull = true := h.self.2.2.2.1 counts

end IsTransparent

/-- A signature by kind, in terms of the attributes of the node. -/
theorem typeSignature_eq (byName : Bool) (s : Schema) : s.typeSignature byName =
    match s.kind with
    | .primitive => .ok (.str s.primitiveSignature)
    | .reference => .ok (.str (presentOr s.typeName "unknown"))
    | .array => do return .str ("array<" ++ (← innerSignature byName s.items) ++ ">")
    | .map => do return .str ("map<" ++ (← innerSignature byName s.values) ++ ">")
    | .union => do
      let parts ← memberSignatures byName s.members
      match firstNonText? parts 0 with
      | some fault => throw fault
      | none => return .str ("union[" ++ ",".intercalate (parts.map Json.toText) ++ "]")
    | _ =>
      if byName && s.qualifiedName.isTruthy then .ok s.qualifiedName
      else .ok (.str s.kind.text) := by
  cases s with
  | mk kind => cases kind <;> exact typeSignature.eq_def _ _

/-- Where names count, alike nodes have the same name. -/
theorem IsAlike.qualifiedName (h : s.IsAlike t) (hs : s.IsTransparent byName)
    (ht : t.IsTransparent byName) (counts : byName = true ∨ s.typeName = some "fixed") :
    s.qualifiedName = t.qualifiedName := by
  have countsThere : byName = true ∨ t.typeName = some "fixed" := h.typeName ▸ counts
  have name : s.name = t.name :=
    Json.eq_of_sorted_eq (Json.hasOneOrder_of_isTextOrNull (hs.textName counts))
      (Json.hasOneOrder_of_isTextOrNull (ht.textName countsThere)) h.name
  unfold Schema.qualifiedName
  rw [name, h.qualifier]

theorem IsAlike.primitiveSignature (h : s.IsAlike t) (hs : s.IsTransparent byName)
    (ht : t.IsTransparent byName) : s.primitiveSignature = t.primitiveSignature := by
  have logical : s.logicalType = t.logicalType :=
    Json.eq_of_sorted_eq hs.self.2.2.1 ht.self.2.2.1 h.logicalType
  unfold Schema.primitiveSignature
  rw [← h.typeName, h.size, logical]
  split
  · rename_i fixed
    rw [h.qualifiedName hs ht (.inr fixed)]
  · rfl

end

/-- What a node holds is smaller than the node. -/
theorem sizeOf_held_lt (s : Schema) :
    sizeOf s.items < sizeOf s ∧ sizeOf s.values < sizeOf s ∧ sizeOf s.members < sizeOf s := by
  cases s
  simp only [Schema.mk.sizeOf_spec]
  refine ⟨?_, ?_, ?_⟩ <;> omega

/-- What a type stands for by kind, in terms of the attributes of the node. -/
theorem unwrapNamed_eq (s : Schema) : s.unwrapNamed =
    match s.kind with
    | .record | .message | .enum => some s
    | .union => unwrapSole s.members
    | .array => unwrapInner s.items
    | .map => unwrapInner s.values
    | _ => none := by
  cases s with
  | mk kind => cases kind <;> exact unwrapNamed.eq_def _

end Schema

end SchemaReview
