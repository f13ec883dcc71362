import Mathlib
import SchemaReview.Schema.Walk

/-!
# The nodes of a tree

What a walk visits, without the paths and depths on the way. The nodes below a node are those of
its children, so a property of all nodes is inherited by every subtree.
-/
namespace SchemaReview.Schema

/-- The nodes that a walk visits, parents before children. -/
def nodes (s : Schema) : List Schema := s.walk.map Visit.node

/-- The nodes directly below a node that a walk goes on to. -/
def children (s : Schema) : List Schema :=
  match s.kind with
  | .record | .message | .file => s.fields.map FieldOf.type
  | .union => s.members
  | .array => s.items.toList
  | .map => s.values.toList
  | _ => []

mutual

/-- Where a walk starts has no influence on the nodes that it visits. -/
theorem map_node_walkFrom (s : Schema) (path : Path) (above : Nat) (owner : Option Field) :
    (walkFrom s path above owner).map Visit.node = s :: s.children.flatMap nodes := by
  match s with
  | { kind, name, qualifier, documentation, fields, typeName, logicalType, size, symbols,
      symbolValues, items, values, members, additionalProperties } =>
    rw [walkFrom.eq_def, List.map_cons]
    refine congrArg _ ?_
    cases kind with
    | record => exact map_node_walkFields fields ..
    | message => exact map_node_walkFields fields ..
    | file => exact map_node_walkFields fields ..
    | union => exact map_node_walkMembers members ..
    | array => exact map_node_walkInner items ..
    | map => exact map_node_walkInner values ..
    | _ => rfl

theorem map_node_walkFields (fields : List Field) (path : Path) (depth : Nat) :
    (walkFields fields path depth).map Visit.node =
      (fields.map FieldOf.type).flatMap nodes := by
  match fields with
  | [] => rfl
  | { name, type, documentation, hasDefault, default, tag, label, raw } :: rest =>
    rw [walkFields, walkField, List.map_append, map_node_walkFields rest, List.map_cons,
      List.flatMap_cons, map_node_walkFrom type]
    congr 1
    exact (map_node_walkFrom type [] 0 none).symm

theorem map_node_walkMembers (members : List Schema) (position : Nat) (path : Path)
    (depth : Nat) (owner : Option Field) :
    (walkMembers members position path depth owner).map Visit.node = members.flatMap nodes := by
  match members with
  | [] => rfl
  | m :: rest =>
    rw [walkMembers, List.map_append, map_node_walkMembers rest, List.flatMap_cons,
      map_node_walkFrom m]
    congr 1
    exact (map_node_walkFrom m [] 0 none).symm

theorem map_node_walkInner (inner : Option Schema) (path : Path) (depth : Nat)
    (owner : Option Field) :
    (walkInner inner path depth owner).map Visit.node = inner.toList.flatMap nodes := by
  match inner with
  | none => rfl
  | some s =>
    rw [walkInner, map_node_walkFrom s, Option.toList_some, List.flatMap_singleton]
    exact (map_node_walkFrom s [] 0 none).symm

end

theorem nodes_eq (s : Schema) : s.nodes = s :: s.children.flatMap nodes :=
  map_node_walkFrom s [] 0 none

theorem sizeOf_lt_of_mem_children {s c : Schema} (hc : c ∈ s.children) : sizeOf c < sizeOf s := by
  obtain ⟨kind, name, qualifier, documentation, fields, typeName, logicalType, size, symbols,
    symbolValues, items, values, members, additionalProperties⟩ := s
  simp only [Schema.mk.sizeOf_spec]
  cases kind with
  | record | message | file =>
    obtain ⟨f, hf, rfl⟩ := List.mem_map.mp hc
    have hlist : sizeOf f < sizeOf fields := List.sizeOf_lt_of_mem hf
    have htype := f.sizeOf_type_lt
    omega
  | union =>
    have hm : c ∈ members := hc
    have := List.sizeOf_lt_of_mem hm
    omega
  | array =>
    obtain rfl : items = some c := Option.mem_toList.mp hc
    simp only [Option.some.sizeOf_spec]
    omega
  | map =>
    obtain rfl : values = some c := Option.mem_toList.mp hc
    simp only [Option.some.sizeOf_spec]
    omega
  | _ => cases hc

theorem mem_nodes_iff {s t : Schema} : t ∈ s.nodes ↔ t = s ∨ ∃ c ∈ s.children, t ∈ c.nodes := by
  rw [nodes_eq, List.mem_cons, List.mem_flatMap]

theorem self_mem_nodes (s : Schema) : s ∈ s.nodes := mem_nodes_iff.mpr (.inl rfl)

theorem mem_nodes_of_child {s c t : Schema} (hc : c ∈ s.children) (ht : t ∈ c.nodes) :
    t ∈ s.nodes := mem_nodes_iff.mpr (.inr ⟨c, hc, ht⟩)

theorem nodes_subset_of_child {s c : Schema} (hc : c ∈ s.children) : c.nodes ⊆ s.nodes :=
  fun _ => mem_nodes_of_child hc

/-- The nodes of a node are nodes of the tree. -/
theorem nodes_subset_of_node {s t : Schema} (ht : t ∈ s.nodes) : t.nodes ⊆ s.nodes := by
  obtain rfl | ⟨c, hc, ht⟩ := mem_nodes_iff.mp ht
  · exact List.Subset.refl _
  · have := sizeOf_lt_of_mem_children hc
    exact List.Subset.trans (nodes_subset_of_node ht) (nodes_subset_of_child hc)
termination_by sizeOf s

section

variable {s c : Schema}

theorem mem_children_of_items (h : s.kind = .array) (items : s.items = some c) :
    c ∈ s.children := by
  simp [children, h, items]

theorem mem_children_of_values (h : s.kind = .map) (values : s.values = some c) :
    c ∈ s.children := by
  simp [children, h, values]

theorem mem_children_of_member (h : s.kind = .union) (hc : c ∈ s.members) : c ∈ s.children := by
  simpa [children, h] using hc

/-- A walk goes on to the types of a container's fields. -/
theorem children_of_container (h : s.kind.isContainer = true) :
    s.children = s.fields.map FieldOf.type := by
  unfold children
  cases kind : s.kind with
  | record | message | file => rfl
  | _ =>
    rw [kind] at h
    cases h

theorem mem_children_of_container {f : Field} (h : s.kind.isContainer = true)
    (hf : f ∈ s.fields) : f.type ∈ s.children :=
  children_of_container h ▸ List.mem_map_of_mem hf

theorem mem_children_of_field {f : Field} (h : s.kind = .record) (hf : f ∈ s.fields) :
    f.type ∈ s.children := mem_children_of_container (by rw [h]; rfl) hf

end

theorem of_field?_eq_some {s : Schema} {name : String} {f : Field} (h : s.field? name = some f) :
    f ∈ s.fields ∧ f.name = name :=
  ⟨List.mem_of_find?_eq_some h, by simpa using List.find?_some h⟩

/-- Among fields with distinct names, each is the first of its name. -/
theorem find?_name_of_nodup {fields : List Field} (distinct : (fields.map FieldOf.name).Nodup)
    {f : Field} (hf : f ∈ fields) : fields.find? (fun g => g.name == f.name) = some f := by
  induction fields with
  | nil => cases hf
  | cons g rest ih =>
    rw [List.map_cons, List.nodup_cons] at distinct
    obtain rfl | hrest := List.mem_cons.mp hf
    · rw [List.find?_cons_of_pos (by simp)]
    · have hne : g.name ≠ f.name := fun he =>
        distinct.1 (he ▸ List.mem_map.mpr ⟨f, hrest, rfl⟩)
      rw [List.find?_cons_of_neg (by simpa using hne)]
      exact ih distinct.2 hrest

/-! ### The named type that a type stands for

What looking through a type finds, by the kind of the type. -/

section

variable {s t : Schema}

theorem unwrapNamed_named (h : s.isNamed = true) : s.unwrapNamed = some s := by
  cases s with
  | mk kind =>
    cases kind with
    | record | message | enum => rw [unwrapNamed]
    | _ => cases h

theorem unwrapNamed_union (h : s.kind = .union) : s.unwrapNamed = unwrapSole s.members := by
  cases s
  subst h
  rw [unwrapNamed]

theorem unwrapNamed_array (h : s.kind = .array) {i : Schema} (items : s.items = some i) :
    s.unwrapNamed = i.unwrapNamed := by
  cases s
  subst h items
  rw [unwrapNamed, unwrapInner]

theorem unwrapNamed_map (h : s.kind = .map) {v : Schema} (values : s.values = some v) :
    s.unwrapNamed = v.unwrapNamed := by
  cases s
  subst h values
  rw [unwrapNamed, unwrapInner]

theorem unwrapNamed_primitive (h : s.kind = .primitive) : s.unwrapNamed = none := by
  cases s
  subst h
  rw [unwrapNamed] <;> simp

theorem isNull_kind (h : s.isNull = true) : s.kind = .primitive := by
  simp only [isNull, Bool.and_eq_true, beq_iff_eq] at h
  exact h.1

/-- What a union stands for is what one of its members does, and all others are null. -/
theorem of_unwrapSole_eq_some {ms : List Schema} (h : unwrapSole ms = some t) :
    ∃ m ∈ ms, m.isNull = false ∧ m.unwrapNamed = some t ∧
      ∀ other ∈ ms, other = m ∨ other.isNull = true := by
  induction ms with
  | nil =>
    rw [unwrapSole] at h
    cases h
  | cons m rest ih =>
    rw [unwrapSole] at h
    split at h
    · rename_i hnull
      obtain ⟨sole, hm, hn, ht, others⟩ := ih h
      refine ⟨sole, List.mem_cons_of_mem _ hm, hn, ht, ?_⟩
      exact List.forall_mem_cons.mpr ⟨.inr hnull, others⟩
    split at h
    · rename_i hnull hrest
      refine ⟨m, List.mem_cons_self, by simpa using hnull, h, ?_⟩
      refine List.forall_mem_cons.mpr ⟨.inl rfl, fun other ho => .inr ?_⟩
      exact List.all_eq_true.mp hrest other ho
    · cases h

/-- A union stands for nothing if it has several members that are not null, or if the only one
stands for nothing. -/
theorem of_unwrapSole_eq_none {ms : List Schema} (h : unwrapSole ms = none) :
    2 ≤ (ms.filter fun m => !m.isNull).length ∨
      ∀ m ∈ ms, m.isNull = true ∨ m.unwrapNamed = none := by
  induction ms with
  | nil => simp
  | cons m rest ih =>
    rw [unwrapSole] at h
    split at h
    · rename_i hnull
      refine (ih h).imp (fun hl => ?_) fun others => ?_
      · simpa [hnull] using hl
      · exact List.forall_mem_cons.mpr ⟨.inl hnull, others⟩
    split at h
    · rename_i hnull hrest
      refine .inr (List.forall_mem_cons.mpr ⟨.inr h, fun other ho => .inl ?_⟩)
      exact List.all_eq_true.mp hrest other ho
    · rename_i hnull hrest
      refine .inl ?_
      obtain ⟨other, ho, hn⟩ : ∃ other ∈ rest, other.isNull = false := by
        simpa [List.all_eq_true] using hrest
      have hmem : other ∈ rest.filter fun m => !m.isNull := by
        simp [ho, hn]
      have hpos := List.length_pos_of_mem hmem
      rw [List.filter_cons_of_pos (by simpa using hnull), List.length_cons]
      omega

end

end SchemaReview.Schema
