import SchemaReview.Proofs.Schema.Nodes
import SchemaReview.Schema.Equality

/-!
# Nodes of the right shape

What a node has to hold for its kind, and what every list in it has to look like, whatever it was
read from. A name is taken from a text as it is, so it can be any value; where all names of a tree
are texts or absent, so are the qualified names.
-/
namespace SchemaReview

/-- Whether a value is a text or absent. -/
def Json.isTextOrNull : Json → Bool
  | .null | .str _ => true
  | _ => false

namespace Schema

/-! ### Names that are texts -/

theorem isTextOrNull_qualifiedName {s : Schema} (h : s.name.isTextOrNull = true) :
    s.qualifiedName.isTextOrNull = true := by
  unfold qualifiedName
  split
  · split
    · split
      · exact h
      · rfl
    · exact h
  · rfl

theorem exists_text_of_isTruthy {a : Json} (text : a.isTextOrNull = true)
    (h : a.isTruthy = true) : ∃ word, a = .str word := by
  cases a with
  | str word => exact ⟨word, rfl⟩
  | null => cases h
  | _ => cases text

/-- Whether the names of a tree are texts or absent, where names count. -/
def HasTextNames (byName : Bool) (s : Schema) : Prop :=
  byName = true → ∀ t ∈ s.nodes, t.name.isTextOrNull = true

section

variable {byName : Bool} {s t : Schema}

namespace HasTextNames

theorem node (h : s.HasTextNames byName) (ht : t ∈ s.nodes) : t.HasTextNames byName :=
  fun counts u hu => h counts u (nodes_subset_of_node ht hu)

theorem child (h : s.HasTextNames byName) (ht : t ∈ s.children) : t.HasTextNames byName :=
  h.node (mem_nodes_of_child ht t.self_mem_nodes)

theorem name (h : s.HasTextNames byName) (counts : byName = true) :
    s.name.isTextOrNull = true := h counts s s.self_mem_nodes

end HasTextNames

end

/-! ### Nodes that hold what their kinds call for -/

/-- A node holds what its kind calls for, and its names do not clash. -/
structure IsWellShaped (s : Schema) : Prop where
  items : s.kind = .array → s.items ≠ none
  values : s.kind = .map → s.values ≠ none
  members : s.kind = .union → s.members ≠ []
  fields : s.fields ≠ [] → s.kind = .record ∨ s.kind = .message ∨ s.kind = .file
  named : ∀ f ∈ s.fields, f.name ≠ ""
  distinctFields : (s.fields.map FieldOf.name).Nodup
  distinctSymbols : s.symbols.Nodup
  aligned : s.symbolValues = [] ∨ s.symbolValues.length = s.symbols.length

/-- A node carries a name that is a text and not empty. -/
def HasName (s : Schema) : Prop := ∃ name, s.name = .str name ∧ name ≠ ""

/-- A node without fields and symbols is well-shaped if it holds what its kind calls for. -/
theorem isWellShaped_of_bare {s : Schema} (bare : s.fields = [] ∧ s.symbols = [] ∧
    s.symbolValues = []) (items : s.kind = .array → s.items ≠ none)
    (values : s.kind = .map → s.values ≠ none) (members : s.kind = .union → s.members ≠ []) :
    s.IsWellShaped := by
  obtain ⟨fields, symbols, symbolValues⟩ := bare
  refine ⟨items, values, members, fun h => absurd fields h, ?_, ?_, ?_, .inl symbolValues⟩
  · simp [fields]
  · simp [fields]
  · simp [symbols]

/-- Something holds of every node if it holds of the root and of all nodes below it. -/
theorem forall_nodes {p : Schema → Prop} {s : Schema} (root : p s)
    (below : ∀ c ∈ s.children, ∀ t ∈ c.nodes, p t) : ∀ t ∈ s.nodes, p t := by
  intro t ht
  obtain rfl | ⟨c, hc, ht⟩ := mem_nodes_iff.mp ht
  · exact root
  · exact below c hc t ht

theorem exists_nodes {p : Schema → Prop} {s : Schema} :
    (∃ t ∈ s.nodes, p t) ↔ p s ∨ ∃ c ∈ s.children, ∃ t ∈ c.nodes, p t := by
  constructor
  · rintro ⟨t, ht, h⟩
    obtain rfl | ⟨c, hc, ht⟩ := mem_nodes_iff.mp ht
    · exact .inl h
    · exact .inr ⟨c, hc, t, ht, h⟩
  · rintro (h | ⟨c, hc, t, ht, h⟩)
    · exact ⟨s, s.self_mem_nodes, h⟩
    · exact ⟨t, mem_nodes_of_child hc ht, h⟩

/-- A walk visits the nodes of a tree. -/
theorem forall_walk {p : Schema → Prop} {s : Schema} :
    (∀ v ∈ s.walk, p v.node) ↔ ∀ t ∈ s.nodes, p t := by
  simp [nodes]

end Schema

/-! ### Equal nodes

Equality of two nodes, attribute by attribute, with the parts of a node as lists and options whose
elements are equal pairwise. -/

/-- What equality says of two fields. -/
structure FieldOf.AreEqual (f g : Field) : Prop where
  name : f.name = g.name
  type : f.type.same g.type = true
  documentation : f.documentation.same g.documentation = true
  hasDefault : f.hasDefault = g.hasDefault
  default : f.default.same g.default = true
  tag : f.tag = g.tag
  label : f.label = g.label

namespace Schema

/-- What equality says of two nodes. -/
structure AreEqual (s t : Schema) : Prop where
  kind : s.kind = t.kind
  name : s.name.same t.name = true
  qualifier : s.qualifier = t.qualifier
  documentation : s.documentation.same t.documentation = true
  fields : List.Forall₂ FieldOf.AreEqual s.fields t.fields
  typeName : s.typeName = t.typeName
  logicalType : s.logicalType.same t.logicalType = true
  size : s.size = t.size
  symbols : s.symbols = t.symbols
  symbolValues : s.symbolValues = t.symbolValues
  items : Option.Rel (fun a b => a.same b = true) s.items t.items
  values : Option.Rel (fun a b => a.same b = true) s.values t.values
  members : List.Forall₂ (fun a b => a.same b = true) s.members t.members
  additionalProperties : s.additionalProperties = t.additionalProperties

theorem sameField_iff {f g : Field} : sameField f g = true ↔ f.AreEqual g := by
  cases f
  simp only [sameField, Bool.and_eq_true, beq_iff_eq]
  constructor
  · rintro ⟨⟨⟨⟨⟨⟨name, type⟩, documentation⟩, hasDefault⟩, default⟩, tag⟩, label⟩
    exact ⟨name, type, documentation, hasDefault, default, tag, label⟩
  · rintro ⟨name, type, documentation, hasDefault, default, tag, label⟩
    exact ⟨⟨⟨⟨⟨⟨name, type⟩, documentation⟩, hasDefault⟩, default⟩, tag⟩, label⟩

theorem sameFields_iff {fs gs : List Field} :
    sameFields fs gs = true ↔ List.Forall₂ FieldOf.AreEqual fs gs := by
  induction fs generalizing gs with
  | nil => cases gs <;> simp [sameFields]
  | cons f fs ih => cases gs <;> simp [sameFields, sameField_iff, ih]

theorem sameList_iff {as bs : List Schema} :
    sameList as bs = true ↔ List.Forall₂ (fun a b => a.same b = true) as bs := by
  induction as generalizing bs with
  | nil => cases bs <;> simp [sameList]
  | cons a as ih => cases bs <;> simp [sameList, ih]

theorem sameOption_iff {a b : Option Schema} :
    sameOption a b = true ↔ Option.Rel (fun a b => a.same b = true) a b := by
  cases a <;> cases b <;> simp [sameOption]

theorem same_iff {s t : Schema} : s.same t = true ↔ s.AreEqual t := by
  cases s
  simp only [same, Bool.and_eq_true, beq_iff_eq, sameFields_iff, sameList_iff, sameOption_iff]
  constructor
  · rintro ⟨⟨⟨⟨⟨⟨⟨⟨⟨⟨⟨⟨⟨kind, name⟩, qualifier⟩, documentation⟩, fields⟩, typeName⟩, logicalType⟩,
      size⟩, symbols⟩, symbolValues⟩, items⟩, values⟩, members⟩, additional⟩
    exact ⟨kind, name, qualifier, documentation, fields, typeName, logicalType, size, symbols,
      symbolValues, items, values, members, additional⟩
  · rintro ⟨kind, name, qualifier, documentation, fields, typeName, logicalType, size, symbols,
      symbolValues, items, values, members, additional⟩
    exact ⟨⟨⟨⟨⟨⟨⟨⟨⟨⟨⟨⟨⟨kind, name⟩, qualifier⟩, documentation⟩, fields⟩, typeName⟩, logicalType⟩,
      size⟩, symbols⟩, symbolValues⟩, items⟩, values⟩, members⟩, additional⟩

end Schema
end SchemaReview
