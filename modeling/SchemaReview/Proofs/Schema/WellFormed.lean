import SchemaReview.Proofs.Json.Equality
import SchemaReview.Proofs.Schema.Nodes
import SchemaReview.Proofs.Outcome
import SchemaReview.Schema.Checked
import SchemaReview.Schema.Signature

/-!
# Trees that can be built

A node is made with attributes that fit together, and the values that it takes from a text hold no
object with two members of one key. A tree in which this is so everywhere is well-formed. Its fields
are found by their names, and equality of what two such trees hold does not depend on the side from
which it is asked.
-/
namespace SchemaReview

/-- Whether the attributes of a field fit together. -/
def FieldOf.isSound (f : Field) : Bool :=
  f.checked.isOk && f.documentation.hasDistinctKeys && f.default.hasDistinctKeys

namespace Schema

/-- Whether the attributes of a node and of its fields fit together. -/
def isSound (s : Schema) : Bool :=
  s.checked.isOk && s.name.hasDistinctKeys && s.documentation.hasDistinctKeys &&
    s.logicalType.hasDistinctKeys && s.fields.all FieldOf.isSound

/-- Whether every node of a tree is sound. -/
def IsWellFormed (s : Schema) : Prop := ∀ t ∈ s.nodes, t.isSound = true

/-- Names of which none is repeated are distinct, and none of them was seen before. -/
theorem nodup_of_firstRepeated?_eq_none {names seen : List String}
    (h : firstRepeated? names seen = none) : names.Nodup ∧ ∀ n ∈ names, n ∉ seen := by
  induction names generalizing seen with
  | nil => simp
  | cons n rest ih =>
    rw [firstRepeated?] at h
    split at h
    · cases h
    · rename_i unseen
      obtain ⟨distinct, new⟩ := ih h
      rw [List.contains_iff_mem] at unseen
      refine ⟨List.nodup_cons.mpr ⟨fun hn => ?_, distinct⟩, ?_⟩
      · exact new n hn List.mem_cons_self
      · refine List.forall_mem_cons.mpr ⟨unseen, fun k hk hs => ?_⟩
        exact new k hk (List.mem_cons_of_mem _ hs)

section

variable {s t : Schema} {f : Field}

/-- What it takes for a node to be made. -/
theorem of_checked_isOk (h : s.checked.isOk = true) :
    (s.fields ≠ [] → s.kind.isContainer = true) ∧ (s.fields.map FieldOf.name).Nodup := by
  unfold checked at h
  split at h
  · cases h
  · rename_i allowed
    split at h
    · cases h
    · rename_i distinct
      refine ⟨fun some => ?_, (nodup_of_firstRepeated?_eq_none distinct).1⟩
      simpa [some] using allowed

namespace IsWellFormed

theorem node (h : IsWellFormed s) (ht : t ∈ s.nodes) : IsWellFormed t :=
  fun u hu => h u (nodes_subset_of_node ht hu)

theorem sound (h : IsWellFormed s) : s.checked.isOk = true ∧ s.name.hasDistinctKeys = true ∧
    s.documentation.hasDistinctKeys = true ∧ ∀ f ∈ s.fields, f.isSound = true := by
  have self := h s s.self_mem_nodes
  simp only [isSound, Bool.and_eq_true, List.all_eq_true] at self
  obtain ⟨⟨⟨⟨made, name⟩, documentation⟩, -⟩, fields⟩ := self
  exact ⟨made, name, documentation, fields⟩

theorem name (h : IsWellFormed s) : s.name.hasDistinctKeys = true := h.sound.2.1

theorem documentation (h : IsWellFormed s) : s.documentation.hasDistinctKeys = true :=
  h.sound.2.2.1

theorem distinctFields (h : IsWellFormed s) : (s.fields.map FieldOf.name).Nodup :=
  (of_checked_isOk h.sound.1).2

theorem fieldValues (h : IsWellFormed s) (hf : f ∈ s.fields) :
    f.documentation.hasDistinctKeys = true ∧ f.default.hasDistinctKeys = true := by
  have sound := h.sound.2.2.2 f hf
  simp only [FieldOf.isSound, Bool.and_eq_true] at sound
  exact ⟨sound.1.2, sound.2⟩

theorem field?_of_mem (h : IsWellFormed s) (hf : f ∈ s.fields) : s.field? f.name = some f :=
  find?_name_of_nodup h.distinctFields hf

/-- The fields of a node that was made are those of a container, so a walk goes on to their
types. -/
theorem isContainer (h : IsWellFormed s) (hf : f ∈ s.fields) : s.kind.isContainer = true :=
  (of_checked_isOk h.sound.1).1 (List.ne_nil_of_mem hf)

theorem type_mem_children (h : IsWellFormed s) (hf : f ∈ s.fields) : f.type ∈ s.children :=
  mem_children_of_container (h.isContainer hf) hf

theorem child (h : IsWellFormed s) (ht : t ∈ s.children) : IsWellFormed t :=
  h.node (nodes_subset_of_child ht t.self_mem_nodes)

theorem field (h : IsWellFormed s) (hf : f ∈ s.fields) : IsWellFormed f.type :=
  h.child (h.type_mem_children hf)

end IsWellFormed

/-- What a type stands for is a record, a message or an enum among its nodes. -/
theorem of_unwrapNamed_eq_some {s t : Schema} (h : s.unwrapNamed = some t) :
    t ∈ s.nodes ∧ t.isNamed = true := by
  have below {c : Schema} (hc : c ∈ s.children) (hct : c.unwrapNamed = some t) :
      t ∈ s.nodes ∧ t.isNamed = true := by
    have smaller := sizeOf_lt_of_mem_children hc
    obtain ⟨ht, named⟩ := of_unwrapNamed_eq_some hct
    exact ⟨mem_nodes_of_child hc ht, named⟩
  cases kind : s.kind with
  | record | message | enum =>
    have named : s.isNamed = true := by rw [isNamed, kind]; rfl
    rw [unwrapNamed_named named] at h
    cases h
    exact ⟨s.self_mem_nodes, named⟩
  | union =>
    rw [unwrapNamed_union kind] at h
    obtain ⟨m, hm, -, stands, -⟩ := of_unwrapSole_eq_some h
    exact below (mem_children_of_member kind hm) stands
  | array =>
    cases items : s.items with
    | none =>
      cases s
      subst kind items
      simp [unwrapNamed, unwrapInner] at h
    | some i =>
      rw [unwrapNamed_array kind items] at h
      exact below (mem_children_of_items kind items) h
  | map =>
    cases values : s.values with
    | none =>
      cases s
      subst kind values
      simp [unwrapNamed, unwrapInner] at h
    | some v =>
      rw [unwrapNamed_map kind values] at h
      exact below (mem_children_of_values kind values) h
  | primitive | reference | file =>
    cases s
    subst kind
    simp [unwrapNamed] at h
termination_by sizeOf s

/-- The name that a signature may be is that of the type. -/
theorem hasDistinctKeys_qualifiedName (h : s.name.hasDistinctKeys = true) :
    s.qualifiedName.hasDistinctKeys = true := by
  unfold qualifiedName
  split
  · split
    · split
      · exact h
      · rfl
    · exact h
  · rfl

/-- A signature is a text or a name. -/
theorem hasDistinctKeys_typeSignature {byName : Bool} {signature : Json}
    (h : s.name.hasDistinctKeys = true) (read : s.typeSignature byName = .ok signature) :
    signature.hasDistinctKeys = true := by
  have own := hasDistinctKeys_qualifiedName h
  cases s with
  | mk kind =>
    rw [typeSignature.eq_def] at read
    dsimp only at read
    cases kind with
    | primitive | reference =>
      cases read
      rfl
    | array | map =>
      obtain ⟨inner, -, read⟩ := bind_eq_ok.mp read
      cases read
      rfl
    | union =>
      obtain ⟨parts, -, read⟩ := bind_eq_ok.mp read
      split at read
      · cases read
      · cases read
        rfl
    | record | message | enum | file =>
      dsimp only at read
      split at read
      · cases read
        exact own
      · cases read
        rfl

theorem hasDistinctKeys_namedSignature {byName : Bool} {signature : Json}
    (h : s.name.hasDistinctKeys = true) (read : s.namedSignature byName = .ok signature) :
    signature.hasDistinctKeys = true := by
  unfold namedSignature at read
  split at read
  · cases read
    exact hasDistinctKeys_qualifiedName h
  · exact hasDistinctKeys_typeSignature h read

end

end Schema
end SchemaReview
