import Mathlib
import SchemaReview.Compatibility.Resolution
import SchemaReview.Schema.Walk

/-!
# Schema resolution

Data written with one schema resolves against another if every part of it does. The relation below
is the whole requirement; what is read at the level of types alone is decided by `canRead`, whose
cases are stated here one by one.
-/
namespace SchemaReview.Schema

theorem sizeOf_lt_of_mem_fields {s : Schema} {f : Field} (h : f ∈ s.fields) :
    sizeOf f.type < sizeOf s := by
  have hf := List.sizeOf_lt_of_mem h
  have ht := f.sizeOf_type_lt
  have hs := s.sizeOf_fields_lt
  omega

/-- Whether data of one schema resolves against another all the way down, except at the pairs that
are assumed to. -/
def Resolves (assumed : Schema → Schema → Prop) (reader writer : Schema) : Prop :=
  assumed reader writer ∨
    if writer.kind = .union then ∀ m ∈ writer.members, Resolves assumed reader m
    else if reader.kind = .union then ∃ m, ∃ _ : m ∈ reader.members, Resolves assumed m writer
    else
      match reader.kind, writer.kind with
      | .record, .record =>
        ∀ f ∈ reader.fields, f.hasDefault = true ∨
          ∃ g, ∃ _ : g ∈ writer.fields, g.name = f.name ∧ Resolves assumed f.type g.type
      | .enum, .enum => ∀ symbol ∈ writer.symbols, symbol ∈ reader.symbols
      | .array, .array =>
        ∃ r w, ∃ _ : reader.items = some r, ∃ _ : writer.items = some w, Resolves assumed r w
      | .map, .map =>
        ∃ r w, ∃ _ : reader.values = some r, ∃ _ : writer.values = some w, Resolves assumed r w
      | .primitive, .primitive => canRead true reader writer = true
      | _, _ => False
termination_by sizeOf reader + sizeOf writer
decreasing_by
  · have := sizeOf_lt_of_mem_members ‹_›
    omega
  · have := sizeOf_lt_of_mem_members ‹_›
    omega
  · have := sizeOf_lt_of_mem_fields ‹_ ∈ reader.fields›
    have := sizeOf_lt_of_mem_fields ‹_ ∈ writer.fields›
    omega
  · rename_i hr hw
    have := sizeOf_lt_of_items hr
    have := sizeOf_lt_of_items hw
    omega
  · rename_i hr hw
    have := sizeOf_lt_of_values hr
    have := sizeOf_lt_of_values hw
    omega

section

variable {assumed : Schema → Schema → Prop} {reader writer r w : Schema}

theorem resolves_of_assumed (h : assumed reader writer) : Resolves assumed reader writer := by
  rw [Resolves]
  exact .inl h

theorem resolves_of_members (hw : writer.kind = .union)
    (h : ∀ m ∈ writer.members, Resolves assumed reader m) : Resolves assumed reader writer := by
  rw [Resolves, if_pos hw]
  exact .inr h

theorem resolves_of_member (hw : writer.kind ≠ .union) (hr : reader.kind = .union) {m : Schema}
    (hm : m ∈ reader.members) (h : Resolves assumed m writer) :
    Resolves assumed reader writer := by
  rw [Resolves, if_neg hw, if_pos hr]
  exact .inr ⟨m, hm, h⟩

theorem resolves_of_items (hr : reader.kind = .array) (hw : writer.kind = .array)
    (hri : reader.items = some r) (hwi : writer.items = some w) (h : Resolves assumed r w) :
    Resolves assumed reader writer := by
  rw [Resolves, if_neg (by simp [hw]), if_neg (by simp [hr]), hr, hw]
  exact .inr ⟨r, w, hri, hwi, h⟩

theorem resolves_of_values (hr : reader.kind = .map) (hw : writer.kind = .map)
    (hrv : reader.values = some r) (hwv : writer.values = some w) (h : Resolves assumed r w) :
    Resolves assumed reader writer := by
  rw [Resolves, if_neg (by simp [hw]), if_neg (by simp [hr]), hr, hw]
  exact .inr ⟨r, w, hrv, hwv, h⟩

theorem resolves_of_fields (hr : reader.kind = .record) (hw : writer.kind = .record)
    (h : ∀ f ∈ reader.fields, f.hasDefault = true ∨
      ∃ g ∈ writer.fields, g.name = f.name ∧ Resolves assumed f.type g.type) :
    Resolves assumed reader writer := by
  rw [Resolves, if_neg (by simp [hw]), if_neg (by simp [hr]), hr, hw]
  refine .inr fun f hf => (h f hf).imp_right ?_
  rintro ⟨g, hg, hn, ht⟩
  exact ⟨g, hg, hn, ht⟩

theorem resolves_of_symbols (hr : reader.kind = .enum) (hw : writer.kind = .enum)
    (h : ∀ symbol ∈ writer.symbols, symbol ∈ reader.symbols) :
    Resolves assumed reader writer := by
  rw [Resolves, if_neg (by simp [hw]), if_neg (by simp [hr]), hr, hw]
  exact .inr h

theorem resolves_of_primitive (hr : reader.kind = .primitive) (hw : writer.kind = .primitive)
    (h : canRead true reader writer = true) : Resolves assumed reader writer := by
  rw [Resolves, if_neg (by simp [hw]), if_neg (by simp [hr]), hr, hw]
  exact .inr h

end

/-- The decision of whether data of one schema resolves against another all the way down. -/
def resolvesFully (reader writer : Schema) : Bool :=
  if writer.kind = .union then
    writer.members.attach.all fun ⟨m, _⟩ => resolvesFully reader m
  else if reader.kind = .union then
    reader.members.attach.any fun ⟨m, _⟩ => resolvesFully m writer
  else
    match reader.kind, writer.kind with
    | .record, .record =>
      reader.fields.attach.all fun ⟨f, _⟩ => f.hasDefault ||
        writer.fields.attach.any fun ⟨g, _⟩ => g.name == f.name && resolvesFully f.type g.type
    | .enum, .enum => writer.symbols.all fun symbol => reader.symbols.contains symbol
    | .array, .array =>
      match _hr : reader.items, _hw : writer.items with
      | some r, some w => resolvesFully r w
      | _, _ => false
    | .map, .map =>
      match _hr : reader.values, _hw : writer.values with
      | some r, some w => resolvesFully r w
      | _, _ => false
    | .primitive, .primitive => canRead true reader writer
    | _, _ => false
termination_by sizeOf reader + sizeOf writer
decreasing_by
  · have := sizeOf_lt_of_mem_members ‹_›
    omega
  · have := sizeOf_lt_of_mem_members ‹_›
    omega
  · have := sizeOf_lt_of_mem_fields ‹_ ∈ reader.fields›
    have := sizeOf_lt_of_mem_fields ‹_ ∈ writer.fields›
    omega
  · have := sizeOf_lt_of_items _hr
    have := sizeOf_lt_of_items _hw
    omega
  · have := sizeOf_lt_of_values _hr
    have := sizeOf_lt_of_values _hw
    omega

theorem resolvesFully_iff (reader writer : Schema) :
    resolvesFully reader writer = true ↔ Resolves (fun _ _ => False) reader writer := by
  rw [resolvesFully, Resolves, false_or]
  split
  · simp only [List.all_eq_true, List.mem_attach, true_implies, Subtype.forall]
    refine forall₂_congr fun m hm => ?_
    have := sizeOf_lt_of_mem_members hm
    exact resolvesFully_iff reader m
  split
  · simp only [List.any_eq_true, List.mem_attach, true_and, Subtype.exists]
    refine exists₂_congr fun m hm => ?_
    have := sizeOf_lt_of_mem_members hm
    exact resolvesFully_iff m writer
  split
  · simp only [List.all_eq_true, List.any_eq_true, List.mem_attach, true_implies, true_and,
      Subtype.forall, Subtype.exists, Bool.or_eq_true, Bool.and_eq_true, beq_iff_eq]
    refine forall₂_congr fun f hf => or_congr_right (exists₂_congr fun g hg => ?_)
    have := sizeOf_lt_of_mem_fields hf
    have := sizeOf_lt_of_mem_fields hg
    exact and_congr_right fun _ => resolvesFully_iff f.type g.type
  · simp only [List.all_eq_true, List.contains_iff_mem]
  · split
    · rename_i r w hr hw
      have := sizeOf_lt_of_items hr
      have := sizeOf_lt_of_items hw
      rw [resolvesFully_iff r w]
      simp [hr, hw]
    · rename_i none
      simp only [Bool.false_eq_true, false_iff]
      rintro ⟨r, w, hr, hw, -⟩
      exact none r w hr hw
  · split
    · rename_i r w hr hw
      have := sizeOf_lt_of_values hr
      have := sizeOf_lt_of_values hw
      rw [resolvesFully_iff r w]
      simp [hr, hw]
    · rename_i none
      simp only [Bool.false_eq_true, false_iff]
      rintro ⟨r, w, hr, hw, -⟩
      exact none r w hr hw
  · exact Iff.rfl
  · simp_all
termination_by sizeOf reader + sizeOf writer

section

variable {byName : Bool} {reader writer r w : Schema}

theorem canRead_writtenUnion (hw : writer.kind = .union) :
    canRead byName reader writer = true ↔
      ∀ m ∈ writer.members, canRead byName reader m = true := by
  rw [canRead, if_pos hw]
  simp

theorem canRead_readUnion (hw : writer.kind ≠ .union) (hr : reader.kind = .union) :
    canRead byName reader writer = true ↔
      ∃ m ∈ reader.members, canRead byName m writer = true := by
  rw [canRead, if_neg hw, if_pos hr]
  simp

/-- What reading one type with another that is not a union either comes down to, where no name is
written in place of a type. -/
structure ReadsAlike (byName : Bool) (reader writer : Schema) : Prop where
  kind : reader.kind = writer.kind
  name : reader.isNamed = true →
    (reader.resolutionName byName).equals (writer.resolutionName byName) = true
  items : reader.kind = .array →
    ∃ r w, reader.items = some r ∧ writer.items = some w ∧ canRead byName r w = true
  values : reader.kind = .map →
    ∃ r w, reader.values = some r ∧ writer.values = some w ∧ canRead byName r w = true

/-- A type that is not a union, stands for itself and does not accept everything. -/
structure IsOwnType (s : Schema) : Prop where
  notUnion : s.kind ≠ .union
  notReference : s.kind ≠ .reference
  notAny : s.typeName ≠ some "any"

theorem canRead_of_isOwnType (hr : IsOwnType reader) (hw : IsOwnType writer)
    (h : canRead byName reader writer = true) : ReadsAlike byName reader writer := by
  rw [canRead, if_neg hw.notUnion, if_neg hr.notUnion, if_neg (fun ha => hr.notAny ha.2)] at h
  have hrr : (reader.kind == .reference) = false := beq_eq_false_iff_ne.mpr hr.notReference
  have hwr : (writer.kind == .reference) = false := beq_eq_false_iff_ne.mpr hw.notReference
  simp only [resolvesByName, hrr, hwr, Bool.or_false, Bool.false_or] at h
  split at h
  · rename_i named
    rw [Bool.and_eq_true] at h named
    obtain ⟨hkind, hname⟩ := h
    rw [beq_iff_eq] at hkind
    refine ⟨hkind, fun _ => hname, ?_, ?_⟩
    · intro ha
      simp [isNamed, ha, Kind.isNamed] at named
    · intro ha
      simp [isNamed, ha, Kind.isNamed] at named
  split at h
  · cases h
  · rename_i named hkind
    rw [not_not] at hkind
    have hnot : reader.isNamed = false := by
      rw [isNamed, isNamed, ← hkind, Bool.and_self] at named
      simpa [isNamed] using named
    refine ⟨hkind, fun hn => ?_, ?_, ?_⟩
    · rw [hnot] at hn
      cases hn
    · intro ha
      simp only [ha] at h
      split at h
      · rename_i r w hri hwi
        exact ⟨r, w, hri, hwi, h⟩
      · cases h
    · intro ha
      simp only [ha] at h
      split at h
      · rename_i r w hri hwi
        exact ⟨r, w, hri, hwi, h⟩
      · cases h

theorem canRead_of_items (hr : reader.kind = .array) (hw : writer.kind = .array)
    (hri : reader.items = some r) (hwi : writer.items = some w)
    (h : canRead byName r w = true) : canRead byName reader writer = true := by
  rw [canRead]
  simp [hr, hw, resolvesByName, isNamed, Kind.isNamed]
  split
  · simp_all
  · simp_all

theorem canRead_of_values (hr : reader.kind = .map) (hw : writer.kind = .map)
    (hrv : reader.values = some r) (hwv : writer.values = some w)
    (h : canRead byName r w = true) : canRead byName reader writer = true := by
  rw [canRead]
  simp [hr, hw, resolvesByName, isNamed, Kind.isNamed]
  split
  · simp_all
  · simp_all

theorem canRead_of_name (hr : reader.isNamed = true) (hkind : reader.kind = writer.kind)
    (h : (reader.resolutionName byName).equals (writer.resolutionName byName) = true) :
    canRead byName reader writer = true := by
  have hw : writer.isNamed = true := by rwa [isNamed, ← hkind]
  have notOther (kind : Kind) (hk : kind.isNamed = false) : reader.kind ≠ kind := by
    rintro rfl
    rw [isNamed, hk] at hr
    cases hr
  rw [canRead, if_neg (hkind ▸ notOther .union rfl), if_neg (notOther .union rfl),
    if_neg (fun ha => notOther .primitive rfl ha.1)]
  simp [resolvesByName, hr, hw, hkind, h]

theorem canRead_of_primitive (hr : reader.kind = .primitive) (hw : writer.kind = .primitive)
    (h : canReadPrimitive reader writer = true) : canRead byName reader writer = true := by
  rw [canRead]
  simp [hr, hw, h, resolvesByName, isNamed, Kind.isNamed]

end

/-- What a member of a union can read, the union can read. -/
theorem canRead_of_member {byName : Bool} {reader writer m : Schema} (hr : reader.kind = .union)
    (hm : m ∈ reader.members) (h : canRead byName m writer = true) :
    canRead byName reader writer = true := by
  by_cases hw : writer.kind = .union
  · rw [canRead_writtenUnion hw] at h ⊢
    intro part hp
    have := sizeOf_lt_of_mem_members hp
    exact canRead_of_member hr hm (h part hp)
  · rw [canRead_readUnion hw hr]
    exact ⟨m, hm, h⟩
termination_by sizeOf writer

end SchemaReview.Schema
