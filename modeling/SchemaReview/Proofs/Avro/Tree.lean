import SchemaReview.Proofs.Avro.Reading
import SchemaReview.Proofs.Schema.Nodes

/-!
# The trees that the reader of Avro schemas yields

Every node of an accepted schema has one of eight shapes. The kind of a node decides which of its
attributes are given, so what is proved of accepted schemas needs no case for anything else.
-/
namespace SchemaReview.Avro

/-- The nodes that a reading yields. -/
inductive IsTree : Schema → Prop
  | primitive {word} (known : word ∈ primitives) (logical doc : Json) : IsTree {
      kind := .primitive, typeName := some word, logicalType := logical, documentation := doc }
  | reference (name : String) : IsTree { kind := .reference, typeName := some name }
  | union {members} (nonempty : members ≠ []) (trees : ∀ m ∈ members, IsTree m) :
      IsTree { kind := .union, members := members }
  | array {items} (tree : IsTree items) (doc : Json) :
      IsTree { kind := .array, items := some items, documentation := doc }
  | map {values} (tree : IsTree values) (doc : Json) :
      IsTree { kind := .map, values := some values, documentation := doc }
  | enum (name : String) (own : Option String) (doc : Json) {symbols}
      (distinct : symbols.eraseDups.length = symbols.length) : IsTree {
      kind := .enum, name := .str name, qualifier := own, documentation := doc,
      symbols := symbols }
  | fixed (name : String) (own : Option String) (size : Int) (logical doc : Json) : IsTree {
      kind := .primitive, typeName := some "fixed", name := .str name, qualifier := own,
      size := some size, logicalType := logical, documentation := doc }
  | record (name : String) (own : Option String) (doc : Json) {fields}
      (distinct : (fields.map FieldOf.name).Nodup) (trees : ∀ f ∈ fields, IsTree f.type) :
      IsTree {
        kind := .record, name := .str name, qualifier := own, documentation := doc,
        fields := fields }

theorem IsTree.child {s c : Schema} (h : IsTree s) (hc : c ∈ s.children) : IsTree c := by
  cases h with
  | union nonempty trees => exact trees c hc
  | array tree doc =>
    obtain rfl := List.mem_singleton.mp hc
    exact tree
  | map tree doc =>
    obtain rfl := List.mem_singleton.mp hc
    exact tree
  | record name own doc distinct trees =>
    obtain ⟨f, hf, rfl⟩ := List.mem_map.mp hc
    exact trees f hf
  | _ => cases hc

theorem IsTree.node {s t : Schema} (h : IsTree s) (ht : t ∈ s.nodes) : IsTree t := by
  obtain rfl | ⟨c, hc, ht⟩ := Schema.mem_nodes_iff.mp ht
  · exact h
  · have := Schema.sizeOf_lt_of_mem_children hc
    exact (h.child hc).node ht
termination_by sizeOf s

theorem IsTree.kind_of_isNamed {s : Schema} (h : IsTree s) (hs : s.isNamed = true) :
    s.kind = .record ∨ s.kind = .enum := by
  cases h with
  | enum => exact .inr rfl
  | record => exact .inl rfl
  | _ => cases hs

theorem IsTree.isNamed_of_isStructured {s : Schema} (h : IsTree s)
    (hs : s.kind.isStructured = true) : s.isNamed = true := by
  cases h with
  | enum | record => rfl
  | _ => cases hs

theorem IsTree.type {s : Schema} (h : IsTree s) {f : Field} (hf : f ∈ s.fields) :
    IsTree f.type := by
  cases h with
  | record name own doc distinct trees => exact trees f hf
  | _ => cases hf

/-- A field is found by its name. -/
theorem IsTree.field?_of_mem {s : Schema} (h : IsTree s) {f : Field} (hf : f ∈ s.fields) :
    s.field? f.name = some f := by
  cases h with
  | record name own doc distinct trees => exact Schema.find?_name_of_nodup distinct hf
  | _ => cases hf

theorem isTree_namedType (name : String) (q : Option String) (D : Definitions) :
    IsTree (namedType name q D) := by
  unfold namedType
  split
  · rename_i known
    exact .primitive known .null .null
  · exact .reference _

mutual

theorem isTree_of_reads {q : Option String} {D D' : Definitions} {v : Json} {s : Schema}
    (h : Reads q D v s D') : IsTree s := by
  match h with
  | .name name => exact isTree_namedType ..
  | .union nonempty read =>
    obtain ⟨hne, trees⟩ := isTree_of_readsMembers read
    exact .union (hne nonempty) trees
  | .wrapped type nested read => exact isTree_of_reads read
  | .primitive type known => exact .primitive known ..
  | .reference type simple unknown => exact isTree_namedType ..
  | .array type present read => exact .array (isTree_of_reads read) _
  | .map type present read => exact .map (isTree_of_reads read) _
  | .enum type declared listed texts distinct new => exact .enum _ _ _ distinct
  | .fixed type declared sized new => exact .fixed ..
  | .record type known declared listed new read =>
    obtain ⟨-, distinct, trees⟩ := isTree_of_readsFields read
    exact .record _ _ _ distinct trees

theorem isTree_of_readsMembers {q : Option String} {D D' : Definitions} {items : List Json}
    {members : List Schema} (h : ReadsMembers q D items members D') :
    (items ≠ [] → members ≠ []) ∧ ∀ m ∈ members, IsTree m := by
  match h with
  | .nil => exact ⟨fun hne => absurd rfl hne, by simp⟩
  | .cons first others =>
    obtain ⟨-, trees⟩ := isTree_of_readsMembers others
    exact ⟨fun _ => by simp, List.forall_mem_cons.mpr ⟨isTree_of_reads first, trees⟩⟩

theorem isTree_of_readsFields {q : Option String} {D D' : Definitions} {seen : List String}
    {items : List Json} {fields : List Field} (h : ReadsFields q D seen items fields D') :
    (∀ f ∈ fields, f.name ∉ seen) ∧ (fields.map FieldOf.name).Nodup ∧
      ∀ f ∈ fields, IsTree f.type := by
  match h with
  | .nil => simp
  | .cons named nonempty typed new first others =>
    obtain ⟨unseen, distinct, trees⟩ := isTree_of_readsFields others
    refine ⟨?_, ?_, List.forall_mem_cons.mpr ⟨isTree_of_reads first, trees⟩⟩
    · refine List.forall_mem_cons.mpr ⟨new, fun f hf hseen => ?_⟩
      exact unseen f hf (List.mem_cons_of_mem _ hseen)
    · refine List.nodup_cons.mpr ⟨fun hmem => ?_, distinct⟩
      obtain ⟨f, hf, hname⟩ := List.mem_map.mp hmem
      exact unseen f hf (hname ▸ List.mem_cons_self)

end

theorem isTree_of_ofJson {v : Json} {s : Schema} (h : ofJson v = .ok s) : IsTree s := by
  obtain ⟨D, read⟩ := ofJson_eq_ok.mp h
  exact isTree_of_reads read

end SchemaReview.Avro
