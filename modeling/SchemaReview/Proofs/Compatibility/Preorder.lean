import SchemaReview.Proofs.Compatibility.Leaves
import SchemaReview.Proofs.Json.MemberOrder
import SchemaReview.Proofs.Json.Transitivity
import SchemaReview.Proofs.Parse.Outcome
import SchemaReview.Proofs.Parse.WellFormed

/-!
# Readability is a preorder

A type reads its own data, and where no name is written in place of a type, a reader of what is read
reads what was written. The first takes that names are equal to themselves, which all values but a
bare not-a-number are.
-/
namespace SchemaReview.Schema

/-- Whether a comparison asks for the name of a type: of a fixed type always, and of the other types
with names if they are no labels. -/
def comparesName (byName : Bool) (s : Schema) : Bool :=
  if s.kind = .primitive then s.typeName == some "fixed"
  else byName && (s.isNamed || s.kind == .file)

section

variable {byName : Bool} {s t a b c reader writer : Schema}

/-! ### A type reads itself -/

theorem equals_qualifiedName_self (name : s.name.hasDistinctKeys = true)
    (number : s.qualifiedName.isNaN = false) :
    s.qualifiedName.equals s.qualifiedName = true :=
  Json.equals_of_sorted_eq (hasDistinctKeys_qualifiedName name)
    (hasDistinctKeys_qualifiedName name) number rfl

theorem resolutionName_equals_self (name : s.name.hasDistinctKeys = true)
    (number : s.comparesName byName = true → s.qualifiedName.isNaN = false)
    (named : s.resolvesByName = true ∨ s.kind = .file) :
    (s.resolutionName byName).equals (s.resolutionName byName) = true := by
  have text (t : String) : (Json.str t).equals (.str t) = true :=
    Json.equals_of_sorted_eq rfl rfl rfl rfl
  unfold resolutionName
  split
  · exact text _
  · rename_i notReference
    split
    · rename_i used
      refine equals_qualifiedName_self name (number ?_)
      have notPrimitive : s.kind ≠ .primitive := by
        intro primitive
        simp [resolvesByName, isNamed, primitive, Kind.isNamed] at named
      rw [Bool.and_eq_true] at used
      rw [comparesName, if_neg notPrimitive, used.1, Bool.true_and]
      obtain resolves | file := named
      · rw [resolvesByName, Bool.eq_false_of_not_eq_true notReference, Bool.or_false] at resolves
        rw [resolves, Bool.true_or]
      · simp [file]
    · exact text _

theorem canReadPrimitive_self (name : s.name.hasDistinctKeys = true)
    (number : s.typeName = some "fixed" → s.qualifiedName.isNaN = false) :
    canReadPrimitive s s = true := by
  unfold canReadPrimitive
  split
  · rename_i fixed
    simp [equals_qualifiedName_self name (number (or_self_iff.mp fixed))]
  · simp

/-- What it takes for a type to read itself: arrays and maps hold something, and no name that is
compared is a bare not-a-number. A name that is an object has each key once, as objects have. -/
structure IsSelfComparable (byName : Bool) (s : Schema) : Prop where
  name : ∀ t ∈ s.parts, t.name.hasDistinctKeys = true
  held : ∀ t ∈ s.parts, t.kind.isCollection = true → t.held?.isSome = true
  number : ∀ t ∈ s.parts, t.comparesName byName = true → t.qualifiedName.isNaN = false

theorem IsSelfComparable.of_subset (h : IsSelfComparable byName s) (sub : t.parts ⊆ s.parts) :
    IsSelfComparable byName t where
  name u hu := h.name u (sub hu)
  held u hu := h.held u (sub hu)
  number u hu := h.number u (sub hu)

theorem canRead_self {s : Schema} (h : IsSelfComparable byName s) :
    canRead byName s s = true := by
  have self := s.self_mem_parts
  have name := h.name s self
  cases kind : s.kind with
  | union =>
    rw [canRead_writtenUnion kind]
    intro m hm
    have := sizeOf_lt_of_mem_members hm
    refine canRead_of_member kind hm (canRead_self (h.of_subset ?_))
    exact parts_subset_of_component (mem_components_of_member kind hm)
  | array | map =>
    have collection : s.kind.isCollection = true := by rw [kind]; rfl
    obtain ⟨i, held⟩ := Option.isSome_iff_exists.mp (h.held s self collection)
    have := sizeOf_lt_of_held? held
    refine (canRead_collection (by simp [kind]) collection).mpr
      ⟨rfl, i, i, held, held, canRead_self (h.of_subset ?_)⟩
    exact parts_subset_of_component (mem_components_of_held? held)
  | primitive =>
    refine canRead_of_primitive kind kind (canReadPrimitive_self name fun fixed => ?_)
    exact h.number s self (by rw [comparesName, if_pos kind, fixed]; rfl)
  | record | enum | message | reference =>
    have resolves : s.resolvesByName = true := by
      simp [resolvesByName, isNamed, kind, Kind.isNamed]
    exact (canRead_resolving (by simp [kind]) resolves).mpr ⟨resolves, .inr (.inr rfl),
      resolutionName_equals_self name (h.number s self) (.inl resolves)⟩
  | file =>
    exact (canRead_file (by simp [kind]) kind).mpr
      ⟨kind, resolutionName_equals_self name (h.number s self) (.inr kind)⟩
termination_by sizeOf s

/-! ### What is read of what is read -/

/-- A promotion of a promotion is one, or leads back. -/
theorem promotions_trans {a b c : String} (hab : a ∈ promotions b) (hbc : b ∈ promotions c) :
    a = c ∨ a ∈ promotions c := by
  unfold promotions at hbc
  split at hbc <;> simp only [List.mem_cons, List.not_mem_nil, or_false] at hbc
  · obtain rfl | rfl | rfl := hbc <;> simp_all [promotions]
  · obtain rfl | rfl := hbc <;> simp_all [promotions]
  · subst hbc
    simp [promotions] at hab
  · subst hbc
    simp_all [promotions]
  · subst hbc
    simp_all [promotions]

theorem canReadPrimitive_fixed
    (h : reader.typeName = some "fixed" ∨ writer.typeName = some "fixed") :
    canReadPrimitive reader writer = true ↔ reader.typeName = some "fixed" ∧
      writer.typeName = some "fixed" ∧
      reader.qualifiedName.equals writer.qualifiedName = true ∧ reader.size = writer.size := by
  rw [canReadPrimitive, if_pos h]
  simp only [Bool.and_eq_true, beq_iff_eq, and_assoc]
  constructor
  · rintro ⟨same, name, size⟩
    rw [same, or_self_iff] at h
    exact ⟨same.trans h, h, name, size⟩
  · rintro ⟨r, w, name, size⟩
    exact ⟨r.trans w.symm, name, size⟩

theorem canReadPrimitive_unfixed (hr : reader.typeName ≠ some "fixed")
    (hw : writer.typeName ≠ some "fixed") :
    canReadPrimitive reader writer = true ↔ reader.typeName = writer.typeName ∨
      ∃ r w, reader.typeName = some r ∧ writer.typeName = some w ∧ r ∈ promotions w := by
  rw [canReadPrimitive, if_neg (by simp [hr, hw])]
  cases reader.typeName <;> cases writer.typeName <;> simp

theorem canReadPrimitive_trans (hab : canReadPrimitive a b = true)
    (hbc : canReadPrimitive b c = true) : canReadPrimitive a c = true := by
  by_cases fixed : b.typeName = some "fixed"
  · obtain ⟨fixedA, -, name, size⟩ := (canReadPrimitive_fixed (.inr fixed)).mp hab
    obtain ⟨-, fixedC, name', size'⟩ := (canReadPrimitive_fixed (.inl fixed)).mp hbc
    exact (canReadPrimitive_fixed (.inl fixedA)).mpr
      ⟨fixedA, fixedC, Json.equals_trans name name', size.trans size'⟩
  · have unfixedA : a.typeName ≠ some "fixed" := fun h =>
      fixed ((canReadPrimitive_fixed (.inl h)).mp hab).2.1
    have unfixedC : c.typeName ≠ some "fixed" := fun h =>
      fixed ((canReadPrimitive_fixed (.inr h)).mp hbc).1
    rw [canReadPrimitive_unfixed unfixedA fixed] at hab
    rw [canReadPrimitive_unfixed fixed unfixedC] at hbc
    rw [canReadPrimitive_unfixed unfixedA unfixedC]
    obtain same | ⟨x, y, hx, hy, xy⟩ := hab
    · rwa [same]
    · obtain same | ⟨y', z, hy', hz, yz⟩ := hbc
      · exact .inr ⟨x, y, hx, same ▸ hy, xy⟩
      · obtain rfl := Option.some.inj (hy.symm.trans hy')
        obtain rfl | xz := promotions_trans xy yz
        · exact .inl (hx.trans hz.symm)
        · exact .inr ⟨x, z, hx, hz, xz⟩

/-- Only the type of all values reads the type of all values. -/
theorem any_of_canReadPrimitive (h : canReadPrimitive reader writer = true)
    (any : writer.typeName = some "any") : reader.typeName = some "any" := by
  have unfixedW : writer.typeName ≠ some "fixed" := by simp [any]
  have unfixedR : reader.typeName ≠ some "fixed" := fun h' =>
    unfixedW ((canReadPrimitive_fixed (.inl h')).mp h).2.1
  obtain same | ⟨r, w, -, hw, mem⟩ := (canReadPrimitive_unfixed unfixedR unfixedW).mp h
  · exact same.trans any
  · obtain rfl := Option.some.inj (hw.symm.trans any)
    simp [promotions] at mem

/-- A union is read by what reads its members, and reads what one of them reads; so what is read of
what is read may be asked of types that are no unions. -/
theorem canRead_trans_of_leaves
    (leaf : ∀ x ∈ a.leaves, ∀ y ∈ b.leaves, ∀ z ∈ c.leaves, canRead byName x y = true →
      canRead byName y z = true → canRead byName x z = true)
    (hab : canRead byName a b = true) (hbc : canRead byName b c = true) :
    canRead byName a c = true := by
  rw [canRead_iff_leaves] at *
  intro z hz
  obtain ⟨y, hy, yz⟩ := hbc z hz
  obtain ⟨x, hx, xy⟩ := hab y hy
  exact ⟨x, hx, leaf x hx y hy z hz xy yz⟩

theorem canRead_trans {a b c : Schema} (direct : ∀ t ∈ b.parts, t.kind ≠ .reference)
    (hab : canRead byName a b = true) (hbc : canRead byName b c = true) :
    canRead byName a c = true := by
  refine canRead_trans_of_leaves (fun x _ y hy z hz xy yz => ?_) hab hbc
  obtain ⟨unionY, sizeY⟩ := of_mem_leaves hy
  obtain ⟨unionZ, -⟩ := of_mem_leaves hz
  have directY : ∀ t ∈ y.parts, t.kind ≠ .reference := fun t ht =>
    direct t (parts_subset_of_leaf hy ht)
  cases kind : x.kind with
  | union => exact absurd kind (of_mem_leaves ‹x ∈ a.leaves›).1
  | array | map =>
    have collection : x.kind.isCollection = true := by rw [kind]; rfl
    obtain ⟨kindXY, i, j, hi, hj, ij⟩ := (canRead_collection unionY collection).mp xy
    obtain ⟨kindYZ, j', k, hj', hk, jk⟩ :=
      (canRead_collection unionZ (kindXY ▸ collection)).mp yz
    obtain rfl := Option.some.inj (hj.symm.trans hj')
    have := sizeOf_lt_of_held? hj
    refine (canRead_collection unionZ collection).mpr
      ⟨kindYZ.trans kindXY, i, k, hi, hk, canRead_trans (fun t ht => ?_) ij jk⟩
    exact directY t (parts_subset_of_component (mem_components_of_held? hj) ht)
  | primitive =>
    by_cases any : x.typeName = some "any"
    · exact canRead_any unionZ kind any
    · obtain ⟨kindY, primitive⟩ := (canRead_primitive unionY kind any).mp xy
      have notAny : y.typeName ≠ some "any" := fun h =>
        any (any_of_canReadPrimitive primitive h)
      obtain ⟨kindZ, primitive'⟩ := (canRead_primitive unionZ kindY notAny).mp yz
      exact (canRead_primitive unionZ kind any).mpr
        ⟨kindZ, canReadPrimitive_trans primitive primitive'⟩
  | file =>
    obtain ⟨kindY, name⟩ := (canRead_file unionY kind).mp xy
    obtain ⟨kindZ, name'⟩ := (canRead_file unionZ kindY).mp yz
    exact (canRead_file unionZ kind).mpr ⟨kindZ, Json.equals_trans name name'⟩
  | record | enum | message | reference =>
    have resolves : x.resolvesByName = true := by
      simp [resolvesByName, isNamed, kind, Kind.isNamed]
    obtain ⟨resolvesY, kinds, name⟩ := (canRead_resolving unionY resolves).mp xy
    obtain ⟨resolvesZ, kinds', name'⟩ := (canRead_resolving unionZ resolvesY).mp yz
    have notReference := directY y y.self_mem_parts
    refine (canRead_resolving unionZ resolves).mpr
      ⟨resolvesZ, ?_, Json.equals_trans name name'⟩
    grind
termination_by sizeOf b

end

/-- Readability is a preorder, for every nesting of unions, arrays and maps. Only the middle one of
three types has to be free of references. -/
theorem canRead_preorder (byName : Bool) :
    (∀ s : Schema, IsSelfComparable byName s → canRead byName s s = true) ∧
    ∀ a b c : Schema, (∀ t ∈ b.parts, t.kind ≠ .reference) → canRead byName a b = true →
      canRead byName b c = true → canRead byName a c = true :=
  ⟨fun _ => canRead_self, fun _ _ _ => canRead_trans⟩

/-- A record, or an array of one primitive type. -/
def recordOrArray (word : String) : Schema :=
  { kind := .union
    members := [{ kind := .record, name := .str "Person" },
      { kind := .array, items := some { kind := .primitive, typeName := some word } }] }

theorem parts_recordOrArray (word : String) : (recordOrArray word).parts =
    [recordOrArray word, { kind := .record, name := .str "Person" },
      { kind := .array, items := some { kind := .primitive, typeName := some word } },
      { kind := .primitive, typeName := some word }] := by
  cbv

theorem canRead_preorder_recordOrArray :
    (IsSelfComparable true (recordOrArray "long") ∧
      canRead true (recordOrArray "long") (recordOrArray "long") = true) ∧
    ((∀ t ∈ (recordOrArray "long").parts, t.kind ≠ .reference) ∧
      canRead true (recordOrArray "double") (recordOrArray "long") = true ∧
      canRead true (recordOrArray "long") (recordOrArray "int") = true ∧
      canRead true (recordOrArray "double") (recordOrArray "int") = true) := by
  have comparable : IsSelfComparable true (recordOrArray "long") := by
    constructor <;> rw [parts_recordOrArray] <;> decide +kernel
  have direct : ∀ t ∈ (recordOrArray "long").parts, t.kind ≠ .reference := by
    rw [parts_recordOrArray]
    decide +kernel
  have reads : canRead true (recordOrArray "double") (recordOrArray "long") = true := by cbv
  have reads' : canRead true (recordOrArray "long") (recordOrArray "int") = true := by cbv
  exact ⟨⟨comparable, (canRead_preorder true).1 _ comparable⟩,
    direct, reads, reads', (canRead_preorder true).2 _ _ _ direct reads reads'⟩

/-- An object type that is called by what is no number. -/
def numberlessText : String :=
  "\x7b\"title\":NaN,\"type\":\"object\",\"properties\":\x7b\x7d\x7d"

theorem parse_numberlessText : parse numberlessText .jsonSchema =
    .ok { format := .jsonSchema, root := { kind := .record, name := .float .nan } } := by
  have decoded : jsonOfSchemaText numberlessText =
      .ok (.obj [("title", .float .nan), ("type", .str "object"), ("properties", .obj [])]) :=
    jsonOfSchemaText_eq_ok.mpr (Json.ofText_of_spelled rfl (by cbv))
  unfold parse
  rw [decoded]
  cbv

/-- A name that is not equal to itself keeps a type that is made like any other from reading its own
data. -/
theorem numberlessText_unreadable : ∃ d, parse numberlessText .jsonSchema = .ok d ∧
    d.root.IsWellFormed ∧ (∀ t ∈ d.root.nodes, t.kind ≠ .reference ∧
      (t.kind.isCollection = true → t.held?.isSome = true)) ∧
    canRead true d.root d.root = false := by
  refine ⟨_, parse_numberlessText, isWellFormed_of_parse parse_numberlessText, ?_, by cbv⟩
  intro t ht
  obtain rfl | ⟨c, hc, -⟩ := mem_nodes_iff.mp ht
  · exact ⟨by decide, by decide⟩
  · simp [children] at hc

end SchemaReview.Schema
