import SchemaReview.Compatibility.Check
import SchemaReview.Proofs.Compatibility.Diff
import SchemaReview.Proofs.Compatibility.Signature
import SchemaReview.Proofs.Schema.Nodes

/-!
# What a compatible verdict promises of Avro schemas

A backward comparison without breaking entries makes data of the earlier schema readable with the
later one, field by field and all the way down, wherever a type stands for a named type that the
comparison looks into. If one type can read another at the level of types and both stand for a named
type, then the one named type can read the other; and once the named types resolve all the way down,
so do the types around them. The comparison does not look into unions with several members that are
not null, and it looks through no root; there the promise is that of reading at the level of types.
-/
namespace SchemaReview.Schema

/-- Whether types of which one stands for no named type resolve wherever they can be read. -/
def SettlesUnnamed (assumed : Schema → Schema → Prop) (reader writer : Schema) : Prop :=
  ∀ r ∈ reader.nodes, ∀ w ∈ writer.nodes, (r.unwrapNamed = none ∨ w.unwrapNamed = none) →
    canRead true r w = true → Resolves assumed r w

theorem SettlesUnnamed.below {assumed : Schema → Schema → Prop} {reader writer r w : Schema}
    (h : SettlesUnnamed assumed reader writer) (hr : r.nodes ⊆ reader.nodes)
    (hw : w.nodes ⊆ writer.nodes) : SettlesUnnamed assumed r w :=
  fun a ha b hb => h a (hr ha) b (hw hb)

section

variable {s : Schema}

theorem IsSelfContained.isOwnType (h : IsSelfContained s) (hs : s.kind ≠ .union) :
    IsOwnType s := by
  refine ⟨hs, h.notReference s s.self_mem_nodes, ?_⟩
  have notReference := h.notReference s s.self_mem_nodes
  cases h.tree with
  | primitive known =>
    rintro he
    rw [Option.some.inj he] at known
    exact absurd known (by decide)
  | reference => exact absurd rfl notReference
  | _ => simp

theorem IsSelfContained.isOwnType_of_isNamed (h : IsSelfContained s) (hs : s.isNamed = true) :
    IsOwnType s := by
  refine h.isOwnType fun kind => ?_
  simp [isNamed, kind, Kind.isNamed] at hs

/-- The kinds of the types that are not unions. -/
theorem IsSelfContained.kind_cases (h : IsSelfContained s) (hs : s.kind ≠ .union) :
    s.isNamed = true ∨ (s.kind = .array ∧ ∃ i, s.items = some i) ∨
      (s.kind = .map ∧ ∃ v, s.values = some v) ∨ s.kind = .primitive := by
  have notReference := h.notReference s s.self_mem_nodes
  cases h.tree with
  | primitive | fixed => exact .inr (.inr (.inr rfl))
  | reference => exact absurd rfl notReference
  | union => exact absurd rfl hs
  | array tree => exact .inr (.inl ⟨rfl, _, rfl⟩)
  | map tree => exact .inr (.inr (.inl ⟨rfl, _, rfl⟩))
  | enum | record => exact .inl rfl

end

/-- What a type stands for is a named node of it. -/
theorem mem_nodes_of_unwrapNamed {s t : Schema} (h : IsSelfContained s)
    (hs : s.unwrapNamed = some t) : t ∈ s.nodes ∧ t.isNamed = true := by
  by_cases ks : s.kind = .union
  · rw [unwrapNamed_union ks] at hs
    obtain ⟨m, hm, -, hmt, -⟩ := of_unwrapSole_eq_some hs
    have hc := mem_children_of_member ks hm
    have size := sizeOf_lt_of_mem_children hc
    obtain ⟨ht, named⟩ := mem_nodes_of_unwrapNamed (h.child hc) hmt
    exact ⟨mem_nodes_of_child hc ht, named⟩
  obtain named | ⟨kind, i, items⟩ | ⟨kind, v, values⟩ | kind := h.kind_cases ks
  · rw [unwrapNamed_named named] at hs
    cases hs
    exact ⟨s.self_mem_nodes, named⟩
  · rw [unwrapNamed_array kind items] at hs
    have hc := mem_children_of_items kind items
    have size := sizeOf_lt_of_mem_children hc
    obtain ⟨ht, named⟩ := mem_nodes_of_unwrapNamed (h.child hc) hs
    exact ⟨mem_nodes_of_child hc ht, named⟩
  · rw [unwrapNamed_map kind values] at hs
    have hc := mem_children_of_values kind values
    have size := sizeOf_lt_of_mem_children hc
    obtain ⟨ht, named⟩ := mem_nodes_of_unwrapNamed (h.child hc) hs
    exact ⟨mem_nodes_of_child hc ht, named⟩
  · rw [unwrapNamed_primitive kind] at hs
    cases hs
termination_by sizeOf s

/-- Where both of two types stand for a named type, reading comes down to the named types. -/
theorem named_of_canRead {assumed : Schema → Schema → Prop} {r w : Schema}
    (hr : IsSelfContained r) (hw : IsSelfContained w) (settles : SettlesUnnamed assumed r w)
    (h : canRead true r w = true) {R W : Schema} (hR : r.unwrapNamed = some R)
    (hW : w.unwrapNamed = some W) :
    canRead true R W = true ∧ (Resolves assumed R W → Resolves assumed r w) := by
  by_cases kw : w.kind = .union
  · rw [canRead_writtenUnion kw] at h
    rw [unwrapNamed_union kw] at hW
    obtain ⟨sole, hs, -, hsW, others⟩ := of_unwrapSole_eq_some hW
    have size := sizeOf_lt_of_mem_members hs
    have subset {m : Schema} (hm : m ∈ w.members) : m.nodes ⊆ w.nodes :=
      nodes_subset_of_child (mem_children_of_member kw hm)
    obtain ⟨hread, hup⟩ := named_of_canRead hr (hw.child (mem_children_of_member kw hs))
      (settles.below (List.Subset.refl _) (subset hs)) (h sole hs) hR hsW
    refine ⟨hread, fun resolves => resolves_of_members kw fun m hm => ?_⟩
    obtain rfl | hnull := others m hm
    · exact hup resolves
    · exact settles r r.self_mem_nodes m (subset hm m.self_mem_nodes)
        (.inr (unwrapNamed_primitive (isNull_kind hnull))) (h m hm)
  by_cases kr : r.kind = .union
  · rw [canRead_readUnion kw kr] at h
    rw [unwrapNamed_union kr] at hR
    obtain ⟨m, hm, hmw⟩ := h
    obtain ⟨sole, hs, -, hsR, others⟩ := of_unwrapSole_eq_some hR
    have size := sizeOf_lt_of_mem_members hs
    obtain rfl | hnull := others m hm
    · obtain ⟨hread, hup⟩ := named_of_canRead (hr.child (mem_children_of_member kr hm)) hw
        (settles.below (nodes_subset_of_child (mem_children_of_member kr hm))
          (List.Subset.refl _)) hmw hsR hW
      exact ⟨hread, fun resolves => resolves_of_member kw kr hm (hup resolves)⟩
    · -- null reads nothing that stands for a named type
      have kind := isNull_kind hnull
      have own := (hr.child (mem_children_of_member kr hm)).isOwnType (by simp [kind])
      have alike := canRead_of_isOwnType own (hw.isOwnType kw) hmw
      rw [unwrapNamed_primitive (alike.kind ▸ kind)] at hW
      cases hW
  have alike := canRead_of_isOwnType (hr.isOwnType kr) (hw.isOwnType kw) h
  obtain named | ⟨kind, -⟩ | ⟨kind, -⟩ | kind := hr.kind_cases kr
  · have hwn : w.isNamed = true := by rwa [isNamed, ← alike.kind]
    rw [unwrapNamed_named named] at hR
    rw [unwrapNamed_named hwn] at hW
    cases hR
    cases hW
    exact ⟨h, id⟩
  · obtain ⟨ri, wi, hri, hwi, hread⟩ := alike.items kind
    have hwk : w.kind = .array := alike.kind ▸ kind
    have sizes := And.intro (sizeOf_lt_of_items hri) (sizeOf_lt_of_items hwi)
    rw [unwrapNamed_array kind hri] at hR
    rw [unwrapNamed_array hwk hwi] at hW
    have ofReader := mem_children_of_items kind hri
    have ofWriter := mem_children_of_items hwk hwi
    obtain ⟨hread, hup⟩ := named_of_canRead (hr.child ofReader) (hw.child ofWriter)
      (settles.below (nodes_subset_of_child ofReader) (nodes_subset_of_child ofWriter))
      hread hR hW
    exact ⟨hread, fun resolves => resolves_of_items kind hwk hri hwi (hup resolves)⟩
  · obtain ⟨rv, wv, hrv, hwv, hread⟩ := alike.values kind
    have hwk : w.kind = .map := alike.kind ▸ kind
    have sizes := And.intro (sizeOf_lt_of_values hrv) (sizeOf_lt_of_values hwv)
    rw [unwrapNamed_map kind hrv] at hR
    rw [unwrapNamed_map hwk hwv] at hW
    have ofReader := mem_children_of_values kind hrv
    have ofWriter := mem_children_of_values hwk hwv
    obtain ⟨hread, hup⟩ := named_of_canRead (hr.child ofReader) (hw.child ofWriter)
      (settles.below (nodes_subset_of_child ofReader) (nodes_subset_of_child ofWriter))
      hread hR hW
    exact ⟨hread, fun resolves => resolves_of_values kind hwk hrv hwv (hup resolves)⟩
  · rw [unwrapNamed_primitive kind] at hR
    cases hR
termination_by sizeOf r + sizeOf w

/-- A union with several members that are not null stands for no type. -/
def IsAmbiguous (s : Schema) : Prop :=
  s.kind = .union ∧ 2 ≤ (s.members.filter fun m => !m.isNull).length

/-- Whether no record or enum is below a type. -/
def IsNameless (s : Schema) : Prop := ∀ t ∈ s.nodes, t.isNamed = false

theorem IsNameless.child {s c : Schema} (h : IsNameless s) (hc : c ∈ s.children) : IsNameless c :=
  fun t ht => h t (mem_nodes_of_child hc ht)

theorem isNameless_of_children {s : Schema} (hs : s.isNamed = false)
    (h : ∀ c ∈ s.children, IsNameless c) : IsNameless s := by
  intro t ht
  rw [nodes_eq, List.mem_cons, List.mem_flatMap] at ht
  obtain rfl | ⟨c, hc, ht⟩ := ht
  · exact hs
  · exact h c hc t ht

theorem isNameless_primitive {s : Schema} (h : s.kind = .primitive) : IsNameless s := by
  refine isNameless_of_children (by simp [isNamed, h, Kind.isNamed]) ?_
  simp [children, h]

/-- Without ambiguous unions, a type that stands for no named type holds none. -/
theorem isNameless_of_unwrapNamed {s : Schema} (h : IsSelfContained s)
    (clear : ∀ t ∈ s.nodes, ¬ IsAmbiguous t) (hs : s.unwrapNamed = none) : IsNameless s := by
  have below {c : Schema} (hc : c ∈ s.children) : ∀ t ∈ c.nodes, ¬ IsAmbiguous t :=
    fun t ht => clear t (mem_nodes_of_child hc ht)
  by_cases ks : s.kind = .union
  · rw [unwrapNamed_union ks] at hs
    obtain ambiguous | sole := of_unwrapSole_eq_none hs
    · exact absurd ⟨ks, ambiguous⟩ (clear s s.self_mem_nodes)
    · refine isNameless_of_children (by simp [isNamed, ks, Kind.isNamed]) fun m hm => ?_
      simp only [children, ks] at hm
      have size := sizeOf_lt_of_mem_members hm
      obtain hnull | hnone := sole m hm
      · exact isNameless_primitive (isNull_kind hnull)
      · have ofUnion := mem_children_of_member ks hm
        exact isNameless_of_unwrapNamed (h.child ofUnion) (below ofUnion) hnone
  obtain named | ⟨kind, i, items⟩ | ⟨kind, v, values⟩ | kind := h.kind_cases ks
  · rw [unwrapNamed_named named] at hs
    cases hs
  · have size := sizeOf_lt_of_items items
    rw [unwrapNamed_array kind items] at hs
    have inner := isNameless_of_unwrapNamed (h.child (mem_children_of_items kind items))
      (below (mem_children_of_items kind items)) hs
    refine isNameless_of_children (by simp [isNamed, kind, Kind.isNamed]) ?_
    simpa [children, kind, items] using inner
  · have size := sizeOf_lt_of_values values
    rw [unwrapNamed_map kind values] at hs
    have inner := isNameless_of_unwrapNamed (h.child (mem_children_of_values kind values))
      (below (mem_children_of_values kind values)) hs
    refine isNameless_of_children (by simp [isNamed, kind, Kind.isNamed]) ?_
    simpa [children, kind, values] using inner
  · exact isNameless_primitive kind
termination_by sizeOf s

/-- Where one side holds no named type, what can be read resolves. -/
theorem resolves_of_nameless {assumed : Schema → Schema → Prop} {r w : Schema}
    (hr : IsSelfContained r) (hw : IsSelfContained w) (h : canRead true r w = true)
    (nameless : IsNameless r ∨ IsNameless w) : Resolves assumed r w := by
  by_cases kw : w.kind = .union
  · rw [canRead_writtenUnion kw] at h
    refine resolves_of_members kw fun m hm => ?_
    have size := sizeOf_lt_of_mem_members hm
    exact resolves_of_nameless hr (hw.child (mem_children_of_member kw hm)) (h m hm)
      (nameless.imp_right fun n => n.child (mem_children_of_member kw hm))
  by_cases kr : r.kind = .union
  · rw [canRead_readUnion kw kr] at h
    obtain ⟨m, hm, hmw⟩ := h
    have size := sizeOf_lt_of_mem_members hm
    have ofReader := mem_children_of_member kr hm
    exact resolves_of_member kw kr hm (resolves_of_nameless (hr.child ofReader) hw hmw
      (nameless.imp_left fun n => n.child ofReader))
  have alike := canRead_of_isOwnType (hr.isOwnType kr) (hw.isOwnType kw) h
  obtain named | ⟨kind, -⟩ | ⟨kind, -⟩ | kind := hr.kind_cases kr
  · have hwn : w.isNamed = true := by rwa [isNamed, ← alike.kind]
    obtain n | n := nameless
    · exact absurd named (by simp [n r r.self_mem_nodes])
    · exact absurd hwn (by simp [n w w.self_mem_nodes])
  · obtain ⟨ri, wi, hri, hwi, hread⟩ := alike.items kind
    have hwk : w.kind = .array := alike.kind ▸ kind
    have sizes := And.intro (sizeOf_lt_of_items hri) (sizeOf_lt_of_items hwi)
    have ofReader := mem_children_of_items kind hri
    have ofWriter := mem_children_of_items hwk hwi
    refine resolves_of_items kind hwk hri hwi ?_
    exact resolves_of_nameless (hr.child ofReader) (hw.child ofWriter) hread
      (nameless.imp (fun n => n.child ofReader) fun n => n.child ofWriter)
  · obtain ⟨rv, wv, hrv, hwv, hread⟩ := alike.values kind
    have hwk : w.kind = .map := alike.kind ▸ kind
    have sizes := And.intro (sizeOf_lt_of_values hrv) (sizeOf_lt_of_values hwv)
    have ofReader := mem_children_of_values kind hrv
    have ofWriter := mem_children_of_values hwk hwv
    refine resolves_of_values kind hwk hrv hwv ?_
    exact resolves_of_nameless (hr.child ofReader) (hw.child ofWriter) hread
      (nameless.imp (fun n => n.child ofReader) fun n => n.child ofWriter)
  · exact resolves_of_primitive kind (alike.kind ▸ kind) h
termination_by sizeOf r + sizeOf w

theorem settlesUnnamed_of_clear {assumed : Schema → Schema → Prop} {reader writer : Schema}
    (hr : IsSelfContained reader) (hw : IsSelfContained writer)
    (clearReader : ∀ t ∈ reader.nodes, ¬ IsAmbiguous t)
    (clearWriter : ∀ t ∈ writer.nodes, ¬ IsAmbiguous t) :
    SettlesUnnamed assumed reader writer := by
  intro r memr w memw unnamed h
  refine resolves_of_nameless (hr.node memr) (hw.node memw) h (unnamed.imp ?_ ?_)
  · exact isNameless_of_unwrapNamed (hr.node memr) fun t ht =>
      clearReader t (nodes_subset_of_node memr ht)
  · exact isNameless_of_unwrapNamed (hw.node memw) fun t ht =>
      clearWriter t (nodes_subset_of_node memw ht)

end SchemaReview.Schema

namespace SchemaReview

open Schema

/-- The backward comparison of two schemas whose types are known by name. -/
def backwardByName : Comparison := ⟨.backward, true⟩

section

variable {reader writer : Schema} {path : Path} {entries : List DiffEntry}

theorem canRead_of_not_breaking (h : isBreakingChange true .backward writer reader = false) :
    canRead true reader writer = true := by
  simpa [isBreakingChange, Mode.checksBackward, Mode.checksForward, Mode.direction] using h

/-- Named types that can be read have one kind and one name. -/
theorem matchesNamed_of_canRead (hr : IsSelfContained reader) (hw : IsSelfContained writer)
    (namedReader : reader.isNamed = true) (namedWriter : writer.isNamed = true)
    (h : canRead true reader writer = true) :
    writer.kind = reader.kind ∧ backwardByName.matchesNamed writer reader = true := by
  have alike := canRead_of_isOwnType (hr.isOwnType_of_isNamed namedReader)
    (hw.isOwnType_of_isNamed namedWriter) h
  obtain ⟨q, hq, qne⟩ := hr.exists_qualifiedName namedReader
  obtain ⟨p, hp, pne⟩ := hw.exists_qualifiedName namedWriter
  have name := alike.name namedReader
  rw [resolutionName_named namedReader hq qne, resolutionName_named namedWriter hp pne,
    equals_str] at name
  refine ⟨alike.kind.symm, ?_⟩
  simp [Comparison.matchesNamed, backwardByName, alike.kind, hp, hq, name, equals_str]

/-- Two fields of one name without breaking entries of their own have types that can be read. -/
theorem canRead_of_fieldChanges {old new : Field} (hold : IsSelfContained old.type)
    (hnew : IsSelfContained new.type) (agree : KindsAgree new.type old.type)
    (h : backwardByName.fieldChanges path old new = .ok entries)
    (safe : hasBreaking entries = false) : canRead true new.type old.type = true := by
  obtain reads | ⟨a, b, ha, hb, same⟩ := Comparison.types_of_fieldChanges h safe
  · exact canRead_of_not_breaking reads
  · exact canRead_of_equalSignatures hnew hold agree ha hb same

/-- Roots without breaking entries that are compared as types can be read. -/
theorem canRead_of_rootChanges (hr : IsSelfContained reader) (hw : IsSelfContained writer)
    (agree : KindsAgree reader writer) (flat : writer.kind.isStructured = false)
    (h : backwardByName.rootChanges writer reader = .ok entries)
    (safe : hasBreaking entries = false) : canRead true reader writer = true := by
  unfold Comparison.rootChanges at h
  rw [flat] at h
  split at h
  · split at h
    · obtain rfl := pure_eq_ok.mp h
      simp [hasBreaking, Comparison.incomparableEntry] at safe
    · exact canRead_of_not_breaking (Comparison.hasBreaking_typeChange h ▸ safe)
  · rw [if_neg (by simp)] at h
    obtain ⟨differs, hd, h⟩ := bind_eq_ok.mp h
    obtain ⟨a, b, ha, hb, rfl⟩ := Comparison.signaturesDiffer_eq_ok hd
    split at h
    · exact canRead_of_not_breaking (Comparison.hasBreaking_typeChange h ▸ safe)
    · rename_i same
      exact canRead_of_equalSignatures hr hw agree ha hb (by simpa using same)

end

/-- A comparison of two named types without breaking entries makes the earlier one readable. -/
theorem resolves_of_namedChanges {assumed : Schema → Schema → Prop} {reader writer : Schema}
    {path : Path} {entries : List DiffEntry} (hr : IsSelfContained reader)
    (hw : IsSelfContained writer) (settles : SettlesUnnamed assumed reader writer)
    (agree : KindsAgree reader writer) (named : writer.isNamed = true)
    (kind : writer.kind = reader.kind)
    (h : backwardByName.namedChanges path writer reader = .ok entries)
    (safe : hasBreaking entries = false) : Resolves assumed reader writer := by
  obtain ⟨enum, symbols⟩ | ⟨notEnum, -, added, changed, -, -, ha, hsafe, hc, csafe⟩ :=
    Comparison.namedChanges_eq_ok h safe
  · exact resolves_of_symbols (kind ▸ enum) enum
      (Comparison.symbols_of_symbolChanges symbols rfl)
  have record : writer.kind = .record := (hw.tree.kind_of_isNamed named).resolve_right notEnum
  refine resolves_of_fields (kind ▸ record) record fun f hf => ?_
  have hfc : f.type ∈ reader.children := mem_children_of_field (kind ▸ record) hf
  cases hg : writer.field? f.name with
  | none =>
    exact .inl (Comparison.hasDefault_of_additions ha hsafe rfl (by simp [record]) hf hg)
  | some g =>
    obtain ⟨hgw, hgf⟩ := of_field?_eq_some hg
    have hgc : g.type ∈ writer.children := mem_children_of_field record hgw
    refine .inr ⟨g, hgw, hgf, ?_⟩
    obtain ⟨own, nested, ho, osafe, hn, nsafe⟩ := Comparison.commonChanges_eq_ok hc csafe hgw
      (hgf ▸ hr.tree.field?_of_mem hf)
    have reads := canRead_of_fieldChanges (hw.child hgc) (hr.child hfc)
      (agree.children hfc hgc) ho osafe
    have below := settles.below (nodes_subset_of_child hfc) (nodes_subset_of_child hgc)
    cases hR : f.type.unwrapNamed with
    | none => exact below _ f.type.self_mem_nodes _ g.type.self_mem_nodes (.inl hR) reads
    | some R =>
      cases hW : g.type.unwrapNamed with
      | none => exact below _ f.type.self_mem_nodes _ g.type.self_mem_nodes (.inr hW) reads
      | some W =>
        obtain ⟨hread, resolves⟩ := named_of_canRead (hr.child hfc) (hw.child hgc) below reads
          hR hW
        obtain ⟨hRn, namedR⟩ := mem_nodes_of_unwrapNamed (hr.child hfc) hR
        obtain ⟨hWn, namedW⟩ := mem_nodes_of_unwrapNamed (hw.child hgc) hW
        obtain ⟨same, matched⟩ := matchesNamed_of_canRead ((hr.child hfc).node hRn)
          ((hw.child hgc).node hWn) namedR namedW hread
        rw [Comparison.nestedChanges_eq hW hR matched] at hn
        have size : sizeOf W < sizeOf writer :=
          Nat.lt_of_le_of_lt (sizeOf_unwrapNamed_le hW) (sizeOf_lt_of_mem_fields hgw)
        refine resolves (resolves_of_namedChanges ((hr.child hfc).node hRn)
          ((hw.child hgc).node hWn) ?_ ?_ namedW same hn nsafe)
        · exact below.below (nodes_subset_of_node hRn) (nodes_subset_of_node hWn)
        · exact (agree.children hfc hgc).nodes hRn hWn
termination_by sizeOf writer

/-- A comparison of two roots without breaking entries makes the earlier one readable, unless it
leaves out the named types that both stand for. -/
theorem resolves_of_rootChanges {assumed : Schema → Schema → Prop} {reader writer : Schema}
    {entries : List DiffEntry} (hr : IsSelfContained reader) (hw : IsSelfContained writer)
    (settles : SettlesUnnamed assumed reader writer) (agree : KindsAgree reader writer)
    (compared : writer.kind.isStructured = true ∨ reader.unwrapNamed = none ∨
      writer.unwrapNamed = none)
    (h : backwardByName.rootChanges writer reader = .ok entries)
    (safe : hasBreaking entries = false) : Resolves assumed reader writer := by
  by_cases structured : writer.kind.isStructured = true
  · unfold Comparison.rootChanges at h
    rw [structured] at h
    split at h
    · rw [Bool.true_or, if_pos rfl] at h
      obtain rfl := pure_eq_ok.mp h
      simp [hasBreaking, Comparison.incomparableEntry] at safe
    · rename_i kind
      rw [if_pos rfl] at h
      exact resolves_of_namedChanges hr hw settles agree
        (hw.tree.isNamed_of_isStructured structured) (not_not.mp kind) h safe
  · have reads := canRead_of_rootChanges hr hw agree (by simpa using structured) h safe
    exact settles _ reader.self_mem_nodes _ writer.self_mem_nodes
      (compared.resolve_left structured) reads

end SchemaReview
