import SchemaReview.Compatibility.Resolution
import SchemaReview.Proofs.Schema.Nodes
import SchemaReview.Proofs.Compatibility.Resolution

/-!
# Reading unions

A union comes down to its leaves, the types other than unions that it has as members at any depth.
Data is readable if every leaf of what was written can be read by some leaf of the reader, so the
order, the repetition and the nesting of members have no influence, and a reader with more leaves
reads more. How one leaf reads another is stated here for each kind of reader.
-/
namespace SchemaReview

/-! ### The parts of a type

A union is made of its members, and an array or a map of what it holds. What these are made of in
turn is all that the level of types sees; the fields of containers are not part of it. -/

/-- Kinds whose nodes hold one type, as items or as values. -/
def Kind.isCollection : Kind → Bool
  | .array | .map => true
  | _ => false

namespace Schema

/-- What an array holds as items and a map as values. -/
def held? (s : Schema) : Option Schema :=
  match s.kind with
  | .array => s.items
  | .map => s.values
  | _ => none

/-- The types that a type is made of directly. -/
def components (s : Schema) : List Schema :=
  if s.kind = .union then s.members else s.held?.toList

section

variable {s t u : Schema}

theorem isCollection_of_held? (h : s.held? = some t) : s.kind.isCollection = true := by
  unfold held? at h
  split at h
  · rename_i kind
    rw [kind]
    rfl
  · rename_i kind
    rw [kind]
    rfl
  · cases h

theorem sizeOf_lt_of_held? (h : s.held? = some t) : sizeOf t < sizeOf s := by
  unfold held? at h
  split at h
  · exact sizeOf_lt_of_items h
  · exact sizeOf_lt_of_values h
  · cases h

theorem mem_components_of_member (kind : s.kind = .union) (h : t ∈ s.members) :
    t ∈ s.components := by
  rwa [components, if_pos kind]

theorem mem_components_of_held? (h : s.held? = some t) : t ∈ s.components := by
  have collection := isCollection_of_held? h
  have notUnion : s.kind ≠ .union := by
    intro union
    rw [union] at collection
    cases collection
  rw [components, if_neg notUnion, h]
  exact List.mem_singleton_self t

theorem mem_children_of_component (h : t ∈ s.components) : t ∈ s.children := by
  unfold components at h
  split at h
  · rename_i kind
    exact mem_children_of_member kind h
  · have held := Option.mem_toList.mp h
    unfold held? at held
    split at held
    · rename_i kind
      exact mem_children_of_items kind held
    · rename_i kind
      exact mem_children_of_values kind held
    · cases held

theorem sizeOf_lt_of_mem_components (h : t ∈ s.components) : sizeOf t < sizeOf s :=
  sizeOf_lt_of_mem_children (mem_children_of_component h)

end

/-- A type and what it is made of, at any depth. -/
def parts (s : Schema) : List Schema := s :: s.components.attach.flatMap fun ⟨c, _⟩ => c.parts
termination_by sizeOf s
decreasing_by exact sizeOf_lt_of_mem_components ‹_›

section

variable {s t u : Schema}

theorem mem_parts_iff : t ∈ s.parts ↔ t = s ∨ ∃ c ∈ s.components, t ∈ c.parts := by
  rw [parts]
  simp

theorem self_mem_parts (s : Schema) : s ∈ s.parts := mem_parts_iff.mpr (.inl rfl)

theorem parts_subset_of_component (h : t ∈ s.components) : t.parts ⊆ s.parts :=
  fun _ hu => mem_parts_iff.mpr (.inr ⟨t, h, hu⟩)

/-- The parts of a type are among the nodes of its tree. -/
theorem parts_subset_nodes (s : Schema) : s.parts ⊆ s.nodes := by
  intro t ht
  obtain rfl | ⟨c, hc, ht⟩ := mem_parts_iff.mp ht
  · exact t.self_mem_nodes
  · have := sizeOf_lt_of_mem_components hc
    exact mem_nodes_of_child (mem_children_of_component hc) (parts_subset_nodes c ht)
termination_by sizeOf s

end

/-! ### The leaves of a union -/

/-- The types that a type comes down to: the leaves of its members if it is a union, and the type
itself if it is not. -/
def leaves (s : Schema) : List Schema :=
  if s.kind = .union then s.members.attach.flatMap fun ⟨m, _⟩ => m.leaves else [s]
termination_by sizeOf s
decreasing_by exact sizeOf_lt_of_mem_members ‹_›

/-- What holds of every type that is no union, and of a union if it holds of its members, holds of
all types. -/
@[elab_as_elim]
theorem induction_members {motive : Schema → Prop} (leaf : ∀ s, s.kind ≠ .union → motive s)
    (union : ∀ s, s.kind = .union → (∀ m ∈ s.members, motive m) → motive s) (s : Schema) :
    motive s := by
  by_cases kind : s.kind = .union
  · refine union s kind fun m hm => ?_
    have := sizeOf_lt_of_mem_members hm
    exact induction_members leaf union m
  · exact leaf s kind
termination_by sizeOf s

section

variable {byName : Bool} {reader writer s t : Schema}

theorem leaves_of_ne (h : s.kind ≠ .union) : s.leaves = [s] := by
  rw [leaves, if_neg h]

theorem mem_leaves_union (h : s.kind = .union) :
    t ∈ s.leaves ↔ ∃ m ∈ s.members, t ∈ m.leaves := by
  rw [leaves, if_pos h]
  simp

/-- A leaf is no union, and part of the type. -/
theorem of_mem_leaves (h : t ∈ s.leaves) : t.kind ≠ .union ∧ sizeOf t ≤ sizeOf s := by
  induction s using induction_members with
  | leaf s kind =>
    rw [leaves_of_ne kind, List.mem_singleton] at h
    subst h
    exact ⟨kind, Nat.le_refl _⟩
  | union s kind ih =>
    obtain ⟨m, hm, ht⟩ := (mem_leaves_union kind).mp h
    have smaller := sizeOf_lt_of_mem_members hm
    obtain ⟨notUnion, size⟩ := ih m hm ht
    exact ⟨notUnion, by omega⟩

/-- The parts of a leaf are parts of the type. -/
theorem parts_subset_of_leaf (h : t ∈ s.leaves) : t.parts ⊆ s.parts := by
  induction s using induction_members with
  | leaf s kind =>
    rw [leaves_of_ne kind, List.mem_singleton] at h
    subst h
    exact List.Subset.refl _
  | union s kind ih =>
    obtain ⟨m, hm, ht⟩ := (mem_leaves_union kind).mp h
    exact List.Subset.trans (ih m hm ht)
      (parts_subset_of_component (mem_components_of_member kind hm))

/-- Data of one leaf is readable if some leaf of the reader can read it. -/
theorem canRead_iff_exists_leaf (hw : writer.kind ≠ .union) :
    canRead byName reader writer = true ↔
      ∃ r ∈ reader.leaves, canRead byName r writer = true := by
  induction reader using induction_members with
  | leaf r kind =>
    rw [leaves_of_ne kind]
    simp
  | union r kind ih =>
    rw [canRead_readUnion hw kind]
    constructor
    · rintro ⟨m, hm, reads⟩
      obtain ⟨l, hl, reads⟩ := (ih m hm).mp reads
      exact ⟨l, (mem_leaves_union kind).mpr ⟨m, hm, hl⟩, reads⟩
    · rintro ⟨l, hl, reads⟩
      obtain ⟨m, hm, hl⟩ := (mem_leaves_union kind).mp hl
      exact ⟨m, hm, (ih m hm).mpr ⟨l, hl, reads⟩⟩

/-- Data is readable if every leaf of what was written can be read by some leaf of the reader. -/
theorem canRead_iff_leaves : canRead byName reader writer = true ↔
    ∀ w ∈ writer.leaves, ∃ r ∈ reader.leaves, canRead byName r w = true := by
  induction writer using induction_members with
  | leaf w kind =>
    rw [leaves_of_ne kind, canRead_iff_exists_leaf kind]
    simp
  | union w kind ih =>
    rw [canRead_writtenUnion kind]
    constructor
    · intro h l hl
      obtain ⟨m, hm, hl⟩ := (mem_leaves_union kind).mp hl
      exact (ih m hm).mp (h m hm) l hl
    · intro h m hm
      exact (ih m hm).mpr fun l hl => h l ((mem_leaves_union kind).mpr ⟨m, hm, hl⟩)

/-! ### How one leaf reads another -/

/-- The type of all values reads all data. -/
theorem canRead_any (hw : writer.kind ≠ .union) (hr : reader.kind = .primitive)
    (any : reader.typeName = some "any") : canRead byName reader writer = true := by
  rw [canRead, if_neg hw, if_neg (by simp [hr]), if_pos ⟨hr, any⟩]

/-- An array is read by an array and a map by a map, if what they hold is. -/
theorem canRead_collection (hw : writer.kind ≠ .union) (hr : reader.kind.isCollection = true) :
    canRead byName reader writer = true ↔ writer.kind = reader.kind ∧
      ∃ r w, reader.held? = some r ∧ writer.held? = some w ∧ canRead byName r w = true := by
  have notOther (kind : Kind) (hk : kind.isCollection = false) : reader.kind ≠ kind := by
    rintro rfl
    rw [hk] at hr
    cases hr
  have unnamed : reader.resolvesByName = false := by
    cases kind : reader.kind with
    | array | map => simp [resolvesByName, isNamed, kind, Kind.isNamed]
    | _ => exact absurd kind (notOther _ rfl)
  rw [canRead, if_neg hw, if_neg (notOther .union rfl),
    if_neg (fun any => notOther .primitive rfl any.1), unnamed, Bool.false_and,
    if_neg Bool.false_ne_true]
  by_cases same : reader.kind = writer.kind
  · rw [if_neg (not_not.mpr same)]
    simp only [held?, same, true_and]
    cases kind : reader.kind with
    | array =>
      simp only [same.symm.trans kind]
      split
      · simp_all
      · simp_all
    | map =>
      simp only [same.symm.trans kind]
      split
      · simp_all
      · simp_all
    | _ => exact absurd kind (notOther _ rfl)
  · rw [if_pos same]
    simp [eq_comm.not.mp same]

theorem canRead_primitive (hw : writer.kind ≠ .union) (hr : reader.kind = .primitive)
    (notAny : reader.typeName ≠ some "any") :
    canRead byName reader writer = true ↔
      writer.kind = .primitive ∧ canReadPrimitive reader writer = true := by
  rw [canRead, if_neg hw, if_neg (by simp [hr]), if_neg (fun any => notAny any.2),
    if_neg (by simp [resolvesByName, isNamed, hr, Kind.isNamed])]
  simp only [hr]
  split
  · rename_i kind
    simp [eq_comm.not.mp kind]
  · rename_i kind
    simp [(not_not.mp kind).symm]

theorem canRead_resolving (hw : writer.kind ≠ .union) (hr : reader.resolvesByName = true) :
    canRead byName reader writer = true ↔ writer.resolvesByName = true ∧
      (reader.kind = .reference ∨ writer.kind = .reference ∨ reader.kind = writer.kind) ∧
      (reader.resolutionName byName).equals (writer.resolutionName byName) = true := by
  have notOther (kind : Kind) (hk : kind.isNamed = false) (other : kind ≠ .reference) :
      reader.kind ≠ kind := by
    rintro rfl
    simp [resolvesByName, isNamed, hk, other] at hr
  rw [canRead, if_neg hw, if_neg (notOther .union rfl (by decide)),
    if_neg (fun any => notOther .primitive rfl (by decide) any.1), hr, Bool.true_and]
  split
  · rename_i resolves
    simp [resolves, or_assoc]
  · rename_i resolves
    simp only [resolves, Bool.false_eq_true, false_and, iff_false]
    split
    · simp
    · rename_i kind
      rw [not_not] at kind
      simp only [resolvesByName, isNamed, ← kind] at resolves hr
      exact absurd hr resolves

theorem canRead_file (hw : writer.kind ≠ .union) (hr : reader.kind = .file) :
    canRead byName reader writer = true ↔ writer.kind = .file ∧
      (reader.resolutionName byName).equals (writer.resolutionName byName) = true := by
  rw [canRead, if_neg hw, if_neg (by simp [hr]), if_neg (by simp [hr]),
    if_neg (by simp [resolvesByName, isNamed, hr, Kind.isNamed])]
  simp only [hr]
  split
  · rename_i kind
    simp [eq_comm.not.mp kind]
  · rename_i kind
    simp [(not_not.mp kind).symm]

end

/-! ### Types with more leaves -/

/-- Whether every leaf of one type is a leaf of another, up to what the arrays and maps among them
hold, which may have more leaves in turn. -/
def IsWithin (narrow wide : Schema) : Prop :=
  ∀ n, ∀ _ : n ∈ narrow.leaves, ∃ w ∈ wide.leaves, n = w ∨ (n.kind = w.kind ∧
    ∃ i j, ∃ _ : n.held? = some i, w.held? = some j ∧ IsWithin i j)
termination_by sizeOf narrow
decreasing_by
  have := (of_mem_leaves ‹_›).2
  have := sizeOf_lt_of_held? ‹_›
  omega

section

variable {byName : Bool} {reader writer s t : Schema}

theorem isWithin_of_subset (h : s.leaves ⊆ t.leaves) : IsWithin s t := by
  rw [IsWithin]
  exact fun n hn => ⟨n, h hn, .inl rfl⟩

/-- A union is within every union that has its members, in any order and as often as may be. -/
theorem isWithin_of_members (hs : s.kind = .union) (ht : t.kind = .union)
    (h : s.members ⊆ t.members) : IsWithin s t := by
  refine isWithin_of_subset fun l hl => ?_
  obtain ⟨m, hm, hl⟩ := (mem_leaves_union hs).mp hl
  exact (mem_leaves_union ht).mpr ⟨m, h hm, hl⟩

/-- A wider reader reads all that a narrower one does. -/
theorem canRead_of_wider {reader wider writer : Schema} (within : IsWithin reader wider)
    (h : canRead byName reader writer = true) : canRead byName wider writer = true := by
  rw [IsWithin] at within
  rw [canRead_iff_leaves] at h ⊢
  intro w hw
  obtain ⟨r, hr, reads⟩ := h w hw
  have notUnion := (of_mem_leaves hw).1
  obtain ⟨r', hr', rfl | ⟨kind, i, j, hi, hj, within⟩⟩ := within r hr
  · exact ⟨r, hr', reads⟩
  · refine ⟨r', hr', ?_⟩
    have collection := isCollection_of_held? hi
    obtain ⟨kindW, i', k, hi', hk, reads⟩ := (canRead_collection notUnion collection).mp reads
    obtain rfl := Option.some.inj (hi.symm.trans hi')
    have := (of_mem_leaves hr).2
    have := sizeOf_lt_of_held? hi
    exact (canRead_collection notUnion (kind ▸ collection)).mpr
      ⟨kindW.trans kind, j, k, hj, hk, canRead_of_wider within reads⟩
termination_by sizeOf reader

/-- Besides the type of all values, only a collection of its kind reads a collection. -/
theorem canRead_writtenCollection (hr : reader.kind ≠ .union)
    (hw : writer.kind.isCollection = true) (h : canRead byName reader writer = true) :
    (reader.kind = .primitive ∧ reader.typeName = some "any") ∨
      reader.kind.isCollection = true := by
  have notOther (kind : Kind) (hk : kind.isCollection = false) : writer.kind ≠ kind := by
    rintro rfl
    rw [hk] at hw
    cases hw
  have notUnion := notOther .union rfl
  cases kind : reader.kind with
  | union => exact absurd kind hr
  | array | map => exact .inr rfl
  | primitive =>
    by_cases any : reader.typeName = some "any"
    · exact .inl ⟨rfl, any⟩
    · exact absurd ((canRead_primitive notUnion kind any).mp h).1 (notOther _ rfl)
  | file => exact absurd ((canRead_file notUnion kind).mp h).1 (notOther _ rfl)
  | record | enum | message | reference =>
    have resolves : reader.resolvesByName = true := by
      simp [resolvesByName, isNamed, kind, Kind.isNamed]
    have resolvesW := ((canRead_resolving notUnion resolves).mp h).1
    cases kindW : writer.kind with
    | array | map => simp [resolvesByName, isNamed, kindW, Kind.isNamed] at resolvesW
    | _ => exact absurd kindW (notOther _ rfl)

/-- What is written with a narrower writer is read if what is written with a wider one is. -/
theorem canRead_of_narrower {reader narrower writer : Schema} (within : IsWithin narrower writer)
    (h : canRead byName reader writer = true) : canRead byName reader narrower = true := by
  rw [IsWithin] at within
  rw [canRead_iff_leaves] at h ⊢
  intro n hn
  obtain ⟨w, hw, rfl | ⟨kind, i, j, hi, hj, within⟩⟩ := within n hn
  · exact h n hw
  · obtain ⟨r, hr, reads⟩ := h w hw
    refine ⟨r, hr, ?_⟩
    have notUnion := (of_mem_leaves hn).1
    have notUnionW := (of_mem_leaves hw).1
    obtain ⟨kindR, any⟩ | collection := canRead_writtenCollection (of_mem_leaves hr).1
      (isCollection_of_held? hj) reads
    · exact canRead_any notUnion kindR any
    · obtain ⟨kindW, k, j', hk, hj', reads⟩ := (canRead_collection notUnionW collection).mp reads
      obtain rfl := Option.some.inj (hj.symm.trans hj')
      have := (of_mem_leaves hn).2
      have := sizeOf_lt_of_held? hi
      exact (canRead_collection notUnion collection).mpr
        ⟨kind.trans kindW, k, i, hk, hi, canRead_of_narrower within reads⟩
termination_by sizeOf narrower

end

/-- Reading sees the leaves of unions only. So unions of the same leaves are exchangeable, whatever
the order, the repetition and the nesting of their members, also where arrays and maps hold them;
and a reader with more of them, or a writer with fewer, keeps what is readable. -/
theorem canRead_flattened (byName : Bool) (reader writer : Schema) :
    (canRead byName reader writer = true ↔
      ∀ w ∈ writer.leaves, ∃ r ∈ reader.leaves, canRead byName r w = true) ∧
    (∀ reader' writer', (∀ s, s ∈ reader'.leaves ↔ s ∈ reader.leaves) →
      (∀ s, s ∈ writer'.leaves ↔ s ∈ writer.leaves) →
      canRead byName reader' writer' = canRead byName reader writer) ∧
    (canRead byName reader writer = true →
      (∀ members, reader.kind = .union → reader.members ⊆ members →
        canRead byName { reader with members := members } writer = true) ∧
      (∀ members, writer.kind = .union → members ⊆ writer.members →
        canRead byName reader { writer with members := members } = true) ∧
      ∀ reader' writer', IsWithin reader reader' → IsWithin writer' writer →
        canRead byName reader' writer' = true) := by
  refine ⟨canRead_iff_leaves, fun reader' writer' hr hw => ?_, fun h => ⟨?_, ?_, ?_⟩⟩
  · rw [Bool.eq_iff_iff, canRead_iff_leaves, canRead_iff_leaves]
    simp only [hr, hw]
  · intro members kind more
    exact canRead_of_wider (isWithin_of_members kind kind more) h
  · intro members kind fewer
    exact canRead_of_narrower (isWithin_of_members kind kind fewer) h
  · intro reader' writer' wider narrower
    exact canRead_of_narrower narrower (canRead_of_wider wider h)

/-- A number or a text. -/
def numberOrText : Schema :=
  { kind := .union
    members := [{ kind := .primitive, typeName := some "int" },
      { kind := .primitive, typeName := some "string" }] }

/-- The same, the number in a union of its own and the text twice. -/
def textAroundNumber : Schema :=
  { kind := .union
    members := [{ kind := .primitive, typeName := some "string" },
      { kind := .union, members := [{ kind := .primitive, typeName := some "int" }] },
      { kind := .primitive, typeName := some "string" }] }

theorem canRead_flattened_numberOrText :
    (∀ s, s ∈ textAroundNumber.leaves ↔ s ∈ numberOrText.leaves) ∧
    canRead true numberOrText numberOrText = true ∧
    canRead true textAroundNumber textAroundNumber = canRead true numberOrText numberOrText ∧
    canRead true { numberOrText with members := textAroundNumber :: numberOrText.members }
      numberOrText = true ∧
    canRead true numberOrText { numberOrText with members := [] } = true := by
  have nested : textAroundNumber.leaves = [{ kind := .primitive, typeName := some "string" },
      { kind := .primitive, typeName := some "int" },
      { kind := .primitive, typeName := some "string" }] := by cbv
  have flat : numberOrText.leaves = [{ kind := .primitive, typeName := some "int" },
      { kind := .primitive, typeName := some "string" }] := by cbv
  have same : ∀ s, s ∈ textAroundNumber.leaves ↔ s ∈ numberOrText.leaves := by
    intro s
    rw [nested, flat]
    simp only [List.mem_cons, List.not_mem_nil, or_false]
    tauto
  have reads : canRead true numberOrText numberOrText = true := by cbv
  obtain ⟨-, exchange, widen⟩ := canRead_flattened true numberOrText numberOrText
  obtain ⟨more, fewer, -⟩ := widen reads
  exact ⟨same, reads, exchange _ _ same same, more _ rfl (List.subset_cons_self _ _),
    fewer _ rfl (List.nil_subset _)⟩

end Schema
end SchemaReview
