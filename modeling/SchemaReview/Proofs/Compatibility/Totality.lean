import SchemaReview.Proofs.Compatibility.Alike
import SchemaReview.Proofs.Compatibility.Fields
import SchemaReview.Proofs.Schema.WellFormed

/-!
# Comparisons that come to an end

A signature joins names as texts, so a type with another name may have none. Where names count and
all of them are texts or absent, every type has a signature, and so every comparison of two such
trees comes to an end.
-/
namespace SchemaReview

namespace Schema

mutual

/-- Where names are texts, there is a signature, and it is a text. -/
theorem HasTextNames.exists_typeSignature {byName : Bool} {s : Schema}
    (h : s.HasTextNames byName) : ∃ text, s.typeSignature byName = .ok (.str text) := by
  have smaller := s.sizeOf_held_lt
  rw [typeSignature_eq byName s]
  cases kind : s.kind with
  | primitive | reference => exact ⟨_, rfl⟩
  | array =>
    obtain ⟨text, inner⟩ := exists_innerSignature (a := s.items)
      fun i hi => h.child (mem_children_of_items kind hi)
    dsimp only
    rw [inner]
    exact ⟨_, rfl⟩
  | map =>
    obtain ⟨text, inner⟩ := exists_innerSignature (a := s.values)
      fun i hi => h.child (mem_children_of_values kind hi)
    dsimp only
    rw [inner]
    exact ⟨_, rfl⟩
  | union =>
    obtain ⟨texts, inner⟩ := exists_memberSignatures (a := s.members)
      fun m hm => h.child (mem_children_of_member kind hm)
    dsimp only
    rw [inner]
    simp only [bind, Except.bind, firstNonText?_map]
    exact ⟨_, rfl⟩
  | record | enum | message | file =>
    dsimp only
    split
    · rename_i named
      rw [Bool.and_eq_true] at named
      obtain ⟨word, name⟩ := exists_text_of_isTruthy
        (isTextOrNull_qualifiedName (h.name named.1)) named.2
      exact ⟨word, by rw [name]⟩
    · exact ⟨_, rfl⟩
termination_by sizeOf s

theorem exists_innerSignature {byName : Bool} {a : Option Schema}
    (h : ∀ i, a = some i → i.HasTextNames byName) :
    ∃ text, innerSignature byName a = .ok text := by
  match a with
  | none => exact ⟨"?", rfl⟩
  | some i =>
    obtain ⟨text, inner⟩ := (h i rfl).exists_typeSignature
    rw [innerSignature, inner]
    exact ⟨_, rfl⟩
termination_by sizeOf a

theorem exists_memberSignatures {byName : Bool} {a : List Schema}
    (h : ∀ m ∈ a, m.HasTextNames byName) :
    ∃ texts : List String, memberSignatures byName a = .ok (texts.map .str) := by
  match a with
  | [] => exact ⟨[], rfl⟩
  | m :: rest =>
    rw [List.forall_mem_cons] at h
    obtain ⟨text, first⟩ := h.1.exists_typeSignature
    obtain ⟨texts, others⟩ := exists_memberSignatures h.2
    rw [memberSignatures, first, others]
    exact ⟨text :: texts, rfl⟩
termination_by sizeOf a

end

section

variable {byName : Bool} {s : Schema}

theorem HasTextNames.exists_namedSignature (h : s.HasTextNames byName) :
    ∃ text, s.namedSignature byName = .ok (.str text) := by
  unfold Schema.namedSignature
  split
  · rename_i named
    rw [Bool.and_eq_true, Bool.and_eq_true] at named
    obtain ⟨word, name⟩ := exists_text_of_isTruthy
      (isTextOrNull_qualifiedName (h.name named.1.1)) named.2
    exact ⟨word, by rw [name]⟩
  · exact h.exists_typeSignature

end

end Schema

/-! ### Comparisons -/

theorem Kind.isContainer_of_isStructured {kind : Kind} (structured : kind.isStructured = true)
    (other : kind ≠ .enum) : kind.isContainer = true := by
  cases kind with
  | enum => exact absurd rfl other
  | _ => exact structured

theorem Kind.isStructured_of_isNamed {kind : Kind} (named : kind.isNamed = true) :
    kind.isStructured = true := by
  cases kind with
  | record | enum | message => rfl
  | _ => cases named

namespace Comparison

variable {c : Comparison} {path : Path} {before after : Schema}

theorem succeeds_fieldSnapshot {byName : Bool} {f : Field} (h : f.type.HasTextNames byName) :
    Succeeds (fieldSnapshot byName f) := by
  obtain ⟨text, signature⟩ := h.exists_namedSignature
  exact .bind ⟨_, signature⟩ fun _ => .ok _

theorem succeeds_typeChange (hb : before.HasTextNames c.byName)
    (ha : after.HasTextNames c.byName) : Succeeds (c.typeChange path before after) := by
  obtain ⟨old, oldSignature⟩ := hb.exists_namedSignature
  obtain ⟨new, newSignature⟩ := ha.exists_namedSignature
  exact .bind ⟨_, oldSignature⟩ fun _ => .bind ⟨_, newSignature⟩ fun _ => .ok _

theorem succeeds_signaturesDiffer (hb : before.HasTextNames c.byName)
    (ha : after.HasTextNames c.byName) : Succeeds (c.signaturesDiffer before after) := by
  obtain ⟨old, oldSignature⟩ := hb.exists_namedSignature
  obtain ⟨new, newSignature⟩ := ha.exists_namedSignature
  exact .bind ⟨_, oldSignature⟩ fun _ => .bind ⟨_, newSignature⟩ fun _ => .ok _

theorem succeeds_bySignature (hb : before.HasTextNames c.byName)
    (ha : after.HasTextNames c.byName) :
    Succeeds (do
      if ← c.signaturesDiffer before after then c.typeChange path before after
      else return [] : Entries) := by
  refine .bind (succeeds_signaturesDiffer hb ha) fun differs => ?_
  cases differs with
  | true => exact succeeds_typeChange hb ha
  | false => exact .ok _

theorem succeeds_fieldChanges {old new : Field} (ho : old.type.HasTextNames c.byName)
    (hn : new.type.HasTextNames c.byName) : Succeeds (c.fieldChanges path old new) := by
  rw [fieldChanges_eq]
  refine .bind ?_ fun _ => .ok _
  unfold fieldTypeEntries
  split
  · exact succeeds_typeChange ho hn
  · exact succeeds_bySignature ho hn

theorem succeeds_removals (hb : ∀ f ∈ before.fields, f.type.HasTextNames c.byName) :
    Succeeds (c.removals path before after) :=
  .mapM fun f hf => .bind (succeeds_fieldSnapshot (hb f (List.mem_of_mem_filter hf))) fun _ => .ok _

theorem succeeds_additions (ha : ∀ f ∈ after.fields, f.type.HasTextNames c.byName) :
    Succeeds (c.additions path before after) :=
  .mapM fun f hf => .bind (succeeds_fieldSnapshot (ha f (List.mem_of_mem_filter hf))) fun _ => .ok _

/-- The comparison of two types of one structured kind comes to an end. -/
theorem succeeds_namedChanges {before after : Schema} (path : Path)
    (hb : before.HasTextNames c.byName) (ha : after.HasTextNames c.byName)
    (same : before.kind = after.kind) (structured : before.kind.isStructured = true) :
    Succeeds (c.namedChanges path before after) := by
  by_cases kind : before.kind = .enum
  · rw [namedChanges_enum c path kind]
    exact .ok _
  have container := Kind.isContainer_of_isStructured structured kind
  have oldTypes : ∀ f ∈ before.fields, f.type.HasTextNames c.byName := fun f hf =>
    hb.child (Schema.mem_children_of_container container hf)
  have newTypes : ∀ f ∈ after.fields, f.type.HasTextNames c.byName := fun f hf =>
    ha.child (Schema.mem_children_of_container (same ▸ container) hf)
  rw [namedChanges_container c path kind]
  refine .bind (succeeds_removals oldTypes) fun _ => .bind (succeeds_additions newTypes) fun _ =>
    .bind (.map (.mapM fun pair shared => ?_)) fun _ => .ok _
  obtain ⟨old, new⟩ := pair
  obtain ⟨hold, hnew⟩ := mem_sharedFields.mp shared
  have ho := oldTypes old hold
  have hn := newTypes new (Schema.of_field?_eq_some hnew).1
  refine .bind (succeeds_fieldChanges ho hn) fun _ => .bind ?_ fun _ => .ok _
  rw [nestedChanges_eq_matched]
  cases found : c.matchedNamed? old.type new.type with
  | none => exact .ok _
  | some matched =>
    obtain ⟨oldNamed, newNamed⟩ := matched
    have smaller := sizeOf_matched_lt shared found
    obtain ⟨oldStands, newStands, matching⟩ := matchedNamed?_eq_some.mp found
    obtain ⟨oldNode, named⟩ := Schema.of_unwrapNamed_eq_some oldStands
    have newNode := (Schema.of_unwrapNamed_eq_some newStands).1
    simp only [matchesNamed, Bool.and_eq_true, beq_iff_eq] at matching
    refine succeeds_namedChanges _ (ho.node oldNode) (hn.node newNode) matching.1 ?_
    exact Kind.isStructured_of_isNamed named
termination_by sizeOf before

theorem succeeds_rootChanges (hb : before.HasTextNames c.byName)
    (ha : after.HasTextNames c.byName) : Succeeds (c.rootChanges before after) := by
  unfold rootChanges
  split
  · split
    · exact .ok _
    · exact succeeds_typeChange hb ha
  rename_i same
  split
  · rename_i structured
    exact succeeds_namedChanges [] hb ha (not_not.mp same) structured
  · exact succeeds_bySignature hb ha

end Comparison

/-- Two schemas can be compared if their names are texts or only labels. -/
theorem succeeds_diff {before after : SchemaInput} (mode : Mode)
    (hb : before.root.HasTextNames (!(before.hasLabels || after.hasLabels)))
    (ha : after.root.HasTextNames (!(before.hasLabels || after.hasLabels))) :
    Succeeds (diff before after mode) := Comparison.succeeds_rootChanges hb ha

end SchemaReview
