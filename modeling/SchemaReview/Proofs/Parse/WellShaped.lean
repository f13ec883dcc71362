import SchemaReview.Proofs.Avro.Nameless
import SchemaReview.Proofs.Parse.Outcome

/-!
# The shape of parsed trees

Every node of an Avro schema or an interface definition that is accepted holds what its kind calls
for, and its fields and symbols can be told apart by their names. Its types have names, too, except
for records and enums that an Avro schema declares with a name that ends with a dot.
-/
namespace SchemaReview

theorem nodup_eraseDups (names : List String) : names.eraseDups.Nodup := by
  match names with
  | [] => simp
  | name :: rest =>
    rw [List.eraseDups_cons, List.nodup_cons]
    refine ⟨fun repeated => ?_, nodup_eraseDups _⟩
    rw [List.mem_eraseDups, List.mem_filter] at repeated
    simp at repeated
termination_by names.length
decreasing_by exact Nat.lt_succ_of_le (List.length_filter_le _ _)

/-- Names of which none is lost when repetitions are erased are distinct. -/
theorem nodup_of_length_eraseDups {names : List String}
    (h : names.eraseDups.length = names.length) : names.Nodup := by
  have within : names.eraseDups ⊆ names := fun name => List.mem_eraseDups.mp
  have smaller := List.subperm_of_subset (nodup_eraseDups names) within
  exact (smaller.perm_of_length_le h.ge).nodup_iff.mp (nodup_eraseDups names)

namespace Avro

theorem IsTree.isWellShaped {s : Schema} (h : IsTree s) (named : ∀ f ∈ s.fields, f.name ≠ "") :
    s.IsWellShaped := by
  cases h with
  | union nonempty trees =>
    exact Schema.isWellShaped_of_bare ⟨rfl, rfl, rfl⟩ nofun nofun fun _ => nonempty
  | array | map | primitive | reference | fixed =>
    exact Schema.isWellShaped_of_bare ⟨rfl, rfl, rfl⟩ (by simp) (by simp) (by simp)
  | enum name own doc distinct =>
    exact ⟨nofun, nofun, nofun, fun some => absurd rfl some, by simp, by simp,
      nodup_of_length_eraseDups distinct, .inl rfl⟩
  | record name own doc distinct trees =>
    exact ⟨nofun, nofun, nofun, fun _ => .inl rfl, named, distinct, by simp, .inl rfl⟩

theorem IsTree.name_of_isNamed {s : Schema} (h : IsTree s) (named : s.isNamed = true) :
    ∃ name, s.name = .str name := by
  cases h with
  | enum name | record name => exact ⟨name, rfl⟩
  | _ => cases named

/-- The types of a reading have names exactly if no name that ends with a dot is declared. -/
theorem hasName_iff {v : Json} {s : Schema} (h : ofJson v = .ok s) :
    (∀ t ∈ s.nodes, t.isNamed = true → t.HasName) ↔ ¬ DeclaresNameless v := by
  obtain ⟨D, read⟩ := ofJson_eq_ok.mp h
  rw [← (namesFit_of_reads read).2]
  constructor
  · rintro all ⟨t, ht, named, empty⟩
    obtain ⟨name, given, nonempty⟩ := all t ht named
    rw [empty] at given
    cases given
    exact nonempty rfl
  · intro none t ht named
    obtain ⟨name, given⟩ := ((isTree_of_reads read).node ht).name_of_isNamed named
    refine ⟨name, given, ?_⟩
    rintro rfl
    exact none ⟨t, ht, named, given⟩

end Avro

namespace Protobuf

theorem IsTree.isWellShaped {s : Schema} (h : IsTree s) : s.IsWellShaped := by
  cases h with
  | array | map | scalar | reference =>
    exact Schema.isWellShaped_of_bare ⟨rfl, rfl, rfl⟩ (by simp) (by simp) (by simp)
  | message nonempty package apart trees =>
    exact ⟨nofun, nofun, nofun, fun _ => .inr (.inl rfl), apart.1, apart.2, by simp, .inl rfl⟩
  | enum nonempty package distinct =>
    exact ⟨nofun, nofun, nofun, fun some => absurd rfl some, by simp, by simp, distinct,
      .inr (by simp)⟩
  | file package apart trees =>
    exact ⟨nofun, nofun, nofun, fun _ => .inr (.inr rfl), apart.1, apart.2, by simp, .inl rfl⟩

theorem IsTree.hasName {s : Schema} (h : IsTree s) (named : s.isNamed = true) : s.HasName := by
  cases h with
  | message nonempty | enum nonempty => exact ⟨_, rfl, nonempty⟩
  | _ => cases named

end Protobuf

/-- A text of an Avro schema in which a record or an enum is declared with a name that ends with a
dot. -/
def DeclaresNameless (text : String) (format : Format) : Prop :=
  format = .avro ∧ ∃ v, Json.ofText text = .ok v ∧ Avro.DeclaresNameless v

/-- Every node that a walk through a parsed Avro schema or interface definition visits is
well-shaped: an array has items, a map has values and a union has members; only records, messages
and files have fields; field names are not empty and distinct, symbols are distinct, and their
values are as many as the symbols or none. The records, enums and messages among the nodes all have
a name that is not empty exactly if the text declares no record and no enum with a name that ends
with a dot. -/
theorem parse_wellShaped {text : String} {format : Format} {d : Document}
    (h : parse text format = .ok d) (notJson : format ≠ .jsonSchema) :
    (∀ v ∈ d.root.walk, v.node.IsWellShaped) ∧
      ((∀ v ∈ d.root.walk, v.node.isNamed = true → v.node.HasName) ↔
        ¬ DeclaresNameless text format) := by
  rw [Schema.forall_walk, Schema.forall_walk (p := fun t => t.isNamed = true → t.HasName)]
  cases format with
  | avro =>
    obtain ⟨v, root, read, built, rfl⟩ := parse_avro_eq_ok.mp h
    obtain ⟨D, reading⟩ := Avro.ofJson_eq_ok.mp built
    have decoded := jsonOfSchemaText_eq_ok.mp read
    have tree := Avro.isTree_of_reads reading
    refine ⟨fun t ht => ?_, ?_⟩
    · exact (tree.node ht).isWellShaped ((Avro.namesFit_of_reads reading).1 t ht)
    · simp only [Avro.hasName_iff built, DeclaresNameless, decoded, Except.ok.injEq, true_and,
        exists_eq_left']
  | protobuf =>
    have tree := (Protobuf.of_ofText_eq_ok (failParse_eq_ok.mp h)).2
    refine ⟨fun t ht => (tree.node ht).isWellShaped, ?_⟩
    exact iff_of_true (fun t ht => (tree.node ht).hasName) fun declared => nomatch declared.1
  | jsonSchema => exact absurd rfl notJson

/-- An order holds a list of sizes, and the name of their enum ends with a dot. -/
def orderText : String :=
  "\x7b\"type\":\"record\",\"name\":\"shop.Order\",\"fields\":[\x7b\"name\":\"sizes\",\"type\":" ++
    "\x7b\"type\":\"array\",\"items\":\x7b\"type\":\"enum\",\"name\":\"Size.\"," ++
    "\"symbols\":[\"S\",\"M\"]\x7d\x7d\x7d]\x7d"

/-- The enum of an order. -/
def sizeJson : Json :=
  .obj [("type", .str "enum"), ("name", .str "Size."), ("symbols", .arr [.str "S", .str "M"])]

/-- The list of sizes of an order. -/
def sizesJson : Json := .obj [("type", .str "array"), ("items", sizeJson)]

def orderJson : Json :=
  .obj [("type", .str "record"), ("name", .str "shop.Order"),
    ("fields", .arr [.obj [("name", .str "sizes"), ("type", sizesJson)]])]

theorem ofText_orderText : Json.ofText orderText = .ok orderJson :=
  Json.ofText_of_spelled (spelled_append (spelled_append rfl rfl) rfl) (by cbv)

/-- The tree of an order is well-shaped, and one of its types has no name. -/
theorem parse_wellShaped_order :
    ∃ d, parse orderText .avro = .ok d ∧ (∀ v ∈ d.root.walk, v.node.IsWellShaped) ∧
      ¬ ∀ v ∈ d.root.walk, v.node.isNamed = true → v.node.HasName := by
  have built : Avro.ofJson orderJson = .ok {
      kind := .record, name := .str "Order", qualifier := some "shop",
      fields := [{ name := "sizes", type := {
        kind := .array,
        items := some { kind := .enum, name := .str "", qualifier := some "Size",
                        symbols := ["S", "M"] } } }] } := by cbv
  have made := parse_avro_eq_ok.mpr
    ⟨_, _, jsonOfSchemaText_eq_ok.mpr ofText_orderText, built, rfl⟩
  have dotted : Avro.IsDotted sizeJson :=
    ⟨_, "enum", "Size.", rfl, rfl, by decide, rfl, by decide⟩
  have inside : Avro.DeclaresNameless sizesJson :=
    .within (List.mem_singleton.mpr rfl) (.own dotted)
  have declared : DeclaresNameless orderText .avro :=
    ⟨rfl, orderJson, ofText_orderText, .within (List.mem_singleton.mpr rfl) inside⟩
  obtain ⟨shaped, named⟩ := parse_wellShaped made (by decide)
  exact ⟨_, made, shaped, fun all => named.mp all declared⟩

/-- A record whose name is a namespace and nothing behind it. -/
def dottedText : String := "\x7b\"type\":\"record\",\"name\":\"a.\",\"fields\":[]\x7d"

/-- A record that is accepted may have an empty name. -/
theorem dottedText_nameless :
    ∃ d, parse dottedText .avro = .ok d ∧
      ∃ v ∈ d.root.walk, v.node.kind = .record ∧ ¬ v.node.HasName := by
  have decoded : Json.ofText dottedText =
      .ok (.obj [("type", .str "record"), ("name", .str "a."), ("fields", .arr [])]) := by cbv
  have built : Avro.ofJson
      (.obj [("type", .str "record"), ("name", .str "a."), ("fields", .arr [])]) =
      .ok { kind := .record, name := .str "", qualifier := some "a" } := by cbv
  have made := parse_avro_eq_ok.mpr
    ⟨_, _, jsonOfSchemaText_eq_ok.mpr decoded, built, rfl⟩
  refine ⟨_, made, _, List.mem_singleton.mpr rfl, rfl, ?_⟩
  rintro ⟨name, given, nonempty⟩
  cases given
  exact nonempty rfl

end SchemaReview
