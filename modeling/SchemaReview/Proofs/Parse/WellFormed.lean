import SchemaReview.Proofs.Avro.Tree
import SchemaReview.Proofs.Json.Equality
import SchemaReview.Proofs.JsonSchema.Reading
import SchemaReview.Proofs.Parse.Outcome
import SchemaReview.Proofs.Protobuf.Tree
import SchemaReview.Proofs.Schema.Shape
import SchemaReview.Proofs.Schema.WellFormed

/-!
# Parsed trees can be built

What is read from a text holds no object with two members of one key, and the readers take fields
under distinct names only. So every parsed tree is well-formed, whatever its language.
-/
namespace SchemaReview

namespace Schema

/-- Names that are distinct and were not seen before do not repeat any. -/
theorem firstRepeated?_eq_none {names seen : List String} (distinct : names.Nodup)
    (new : ∀ n ∈ names, n ∉ seen) : firstRepeated? names seen = none := by
  induction names generalizing seen with
  | nil => rfl
  | cons n rest ih =>
    rw [List.nodup_cons] at distinct
    rw [List.forall_mem_cons] at new
    rw [firstRepeated?, if_neg (by simpa using new.1)]
    refine ih distinct.2 fun k hk => ?_
    rw [List.mem_cons, not_or]
    refine ⟨?_, new.2 k hk⟩
    rintro rfl
    exact distinct.1 hk

section

variable {s : Schema}

/-- A tree is well-formed if its root is sound and the trees below are well-formed. -/
theorem isWellFormed_of_children (sound : s.isSound = true)
    (below : ∀ c ∈ s.children, c.IsWellFormed) : s.IsWellFormed :=
  forall_nodes sound below

theorem isWellFormed_of_child {c : Schema} (sound : s.isSound = true) (only : s.children = [c])
    (below : c.IsWellFormed) : s.IsWellFormed := by
  refine isWellFormed_of_children sound ?_
  rw [only]
  exact List.forall_mem_singleton.mpr below

/-- What makes a node sound. -/
theorem isSound_of (container : s.fields ≠ [] → s.kind.isContainer = true)
    (distinct : (s.fields.map FieldOf.name).Nodup)
    (aligned : s.symbolValues = [] ∨ s.symbolValues.length = s.symbols.length)
    (name : s.name.hasDistinctKeys = true) (doc : s.documentation.hasDistinctKeys = true)
    (logical : s.logicalType.hasDistinctKeys = true) (fields : ∀ f ∈ s.fields, f.isSound = true) :
    s.isSound = true := by
  have made : s.checked.isOk = true := by
    unfold checked
    rw [firstRepeated?_eq_none distinct (by simp)]
    have allowed : (!s.fields.isEmpty && !s.kind.isContainer) = false := by
      cases none : s.fields.isEmpty with
      | true => rfl
      | false => simp [container (List.isEmpty_eq_false_iff.mp none)]
    have fits : (!s.symbolValues.isEmpty && s.symbolValues.length != s.symbols.length) = false := by
      obtain none | same := aligned
      · simp [none]
      · simp [same]
    simp only [allowed, fits, Bool.false_eq_true, if_false]
    rfl
  unfold isSound
  rw [made, name, doc, logical, List.all_eq_true.mpr fields]
  rfl

/-- What makes a node without fields and numbers of symbols sound. -/
theorem isSound_of_bare (bare : s.fields = [] ∧ s.symbolValues = [])
    (name : s.name.hasDistinctKeys = true) (doc : s.documentation.hasDistinctKeys = true)
    (logical : s.logicalType.hasDistinctKeys = true) : s.isSound = true := by
  obtain ⟨fields, symbolValues⟩ := bare
  refine isSound_of (fun some => absurd fields some) ?_ (.inl symbolValues) name doc logical ?_
  · simp [fields]
  · simp [fields]

end

end Schema

/-- What makes a field sound. -/
theorem FieldOf.isSound_of {f : Field} (named : f.name ≠ "")
    (declared : f.hasDefault = false → f.default = .null)
    (doc : f.documentation.hasDistinctKeys = true) (default : f.default.hasDistinctKeys = true) :
    f.isSound = true := by
  have made : f.checked.isOk = true := by
    unfold checked
    rw [if_neg named]
    cases has : f.hasDefault with
    | true => rfl
    | false =>
      rw [declared has]
      rfl
  unfold isSound
  rw [made, doc, default]
  rfl

/-! ### Avro schemas -/

namespace Avro

theorem isWellFormed_namedType (name : String) (q : Option String) (D : Definitions) :
    (namedType name q D).IsWellFormed := by
  unfold namedType
  split
  · exact Schema.isWellFormed_of_children rfl nofun
  · exact Schema.isWellFormed_of_children rfl nofun

mutual

theorem isWellFormed_of_reads {q : Option String} {D D' : Definitions} {v : Json} {s : Schema}
    (h : Reads q D v s D') (distinct : v.hasDistinctKeys = true) : s.IsWellFormed := by
  match h with
  | .name name => exact isWellFormed_namedType _ _ _
  | .union nonempty read =>
    refine Schema.isWellFormed_of_children rfl fun c hc => ?_
    exact isWellFormed_of_readsMembers read (Json.hasDistinctKeys_arr.mp distinct) c hc
  | .wrapped type nested read =>
    exact isWellFormed_of_reads read (Json.hasDistinctKeys_of_member? distinct type)
  | .primitive type known =>
    have held := Json.hasDistinctKeys_memberOrNull distinct
    exact Schema.isWellFormed_of_children
      (Schema.isSound_of_bare ⟨rfl, rfl⟩ rfl (held "doc") (held "logicalType")) nofun
  | .reference type simple unknown => exact isWellFormed_namedType _ _ _
  | .array type present read =>
    have inner := isWellFormed_of_reads read (Json.hasDistinctKeys_of_member? distinct present)
    have held := Json.hasDistinctKeys_memberOrNull distinct
    exact Schema.isWellFormed_of_child
      (Schema.isSound_of_bare ⟨rfl, rfl⟩ rfl (held "doc") rfl) rfl inner
  | .map type present read =>
    have inner := isWellFormed_of_reads read (Json.hasDistinctKeys_of_member? distinct present)
    have held := Json.hasDistinctKeys_memberOrNull distinct
    exact Schema.isWellFormed_of_child
      (Schema.isSound_of_bare ⟨rfl, rfl⟩ rfl (held "doc") rfl) rfl inner
  | .enum type declared listed texts apart new =>
    have held := Json.hasDistinctKeys_memberOrNull distinct
    exact Schema.isWellFormed_of_children
      (Schema.isSound_of_bare ⟨rfl, rfl⟩ rfl (held "doc") rfl) nofun
  | .fixed type declared sized new =>
    have held := Json.hasDistinctKeys_memberOrNull distinct
    exact Schema.isWellFormed_of_children
      (Schema.isSound_of_bare ⟨rfl, rfl⟩ rfl (held "doc") (held "logicalType")) nofun
  | .record type known declared listed new read =>
    have held := Json.hasDistinctKeys_memberOrNull distinct
    have items := Json.hasDistinctKeys_of_member? distinct listed
    have fields := isWellFormed_of_readsFields read (Json.hasDistinctKeys_arr.mp items)
    have apart := (isTree_of_readsFields read).2.1
    refine Schema.isWellFormed_of_children ?_ fun c hc => ?_
    · exact Schema.isSound_of (fun _ => rfl) apart (.inl rfl) rfl (held "doc") rfl
        fun f hf => (fields f hf).1
    · obtain ⟨f, hf, rfl⟩ := List.mem_map.mp hc
      exact (fields f hf).2

theorem isWellFormed_of_readsMembers {q : Option String} {D D' : Definitions} {items : List Json}
    {members : List Schema} (h : ReadsMembers q D items members D')
    (distinct : ∀ v ∈ items, v.hasDistinctKeys = true) : ∀ m ∈ members, m.IsWellFormed := by
  match h with
  | .nil => exact nofun
  | .cons first others =>
    rw [List.forall_mem_cons] at distinct
    exact List.forall_mem_cons.mpr ⟨isWellFormed_of_reads first distinct.1,
      isWellFormed_of_readsMembers others distinct.2⟩

theorem isWellFormed_of_readsFields {q : Option String} {D D' : Definitions} {seen : List String}
    {items : List Json} {fields : List Field} (h : ReadsFields q D seen items fields D')
    (distinct : ∀ v ∈ items, v.hasDistinctKeys = true) :
    ∀ f ∈ fields, f.isSound = true ∧ f.type.IsWellFormed := by
  match h with
  | .nil => exact nofun
  | @ReadsFields.cons _ _ _ _ _ _ members _ _ _ _ named nonempty typed new first others =>
    rw [List.forall_mem_cons] at distinct
    have held := Json.hasDistinctKeys_memberOrNull distinct.1
    have type := Json.hasDistinctKeys_of_member? distinct.1 typed
    refine List.forall_mem_cons.mpr ⟨⟨?_, isWellFormed_of_reads first type⟩,
      isWellFormed_of_readsFields others distinct.2⟩
    refine FieldOf.isSound_of nonempty (fun absent => ?_) (held "doc") (held "default")
    unfold Json.hasMember at absent
    unfold Json.memberOrNull
    rw [Option.isSome_eq_false_iff, Option.isNone_iff_eq_none] at absent
    rw [absent]
    rfl

end

end Avro

/-! ### Interface definitions -/

namespace Protobuf

variable {level : Option String}

theorem isWellFormed_namedType (name : List Char) : (namedType name).IsWellFormed := by
  unfold namedType
  dsimp only
  split
  · exact Schema.isWellFormed_of_children rfl nofun
  · exact Schema.isWellFormed_of_children rfl nofun

theorem TypeText.isWellFormed_schema (t : TypeText) : t.schema.IsWellFormed := by
  unfold TypeText.schema
  split
  · exact Schema.isWellFormed_of_child rfl rfl (isWellFormed_namedType _)
  · exact isWellFormed_namedType _

theorem isSound_of_isLineField {f : Field} (h : IsLineField level f) :
    f.isSound = true ∧ f.type.IsWellFormed := by
  obtain ⟨line, h⟩ := h
  have named := (of_memberLine_field? h).1
  unfold MemberLine.field? at h
  split at h
  · cases h
  · obtain ⟨parsed, -, h⟩ := Option.bind_eq_some_iff.mp h
    cases h
    refine ⟨FieldOf.isSound_of named (fun _ => rfl) rfl rfl, ?_⟩
    dsimp only
    generalize parsed.label.or _ = label
    split
    · exact Schema.isWellFormed_of_child rfl rfl parsed.type.isWellFormed_schema
    · exact parsed.type.isWellFormed_schema

/-- A declared type is well-formed; that the names of a message's fields are distinct is seen from
its tree. -/
theorem isWellFormed_of_isDeclared {s : Schema} (h : IsDeclared level s) (tree : IsTree s) :
    s.IsWellFormed := by
  cases h with
  | message name package lines =>
    cases tree with
    | message nonempty package apart trees =>
      refine Schema.isWellFormed_of_children ?_ fun c hc => ?_
      · exact Schema.isSound_of (fun _ => rfl) apart.2 (.inl rfl) rfl rfl rfl
          fun f hf => (isSound_of_isLineField (lines f hf)).1
      · obtain ⟨f, hf, rfl⟩ := List.mem_map.mp hc
        exact (isSound_of_isLineField (lines f hf)).2
  | enum name package entries =>
    refine Schema.isWellFormed_of_children ?_ nofun
    exact Schema.isSound_of (fun some => absurd rfl some) List.nodup_nil (.inr (by simp)) rfl rfl rfl
      (List.forall_mem_nil _)

theorem isWellFormed_of_ofText {text : String} {d : Document} (h : ofText text = .ok d) :
    d.root.IsWellFormed := by
  obtain ⟨⟨package, fields, root⟩, declarations⟩ := isDeclaration_of_ofText h
  obtain ⟨-, tree⟩ := of_ofText_eq_ok h
  rw [root] at declarations tree ⊢
  cases tree with
  | file _ apart trees =>
    refine Schema.isWellFormed_of_children ?_ fun c hc => ?_
    · refine Schema.isSound_of (fun _ => rfl) apart.2 (.inl rfl) rfl rfl rfl fun f hf => ?_
      have named := apart.1 f hf
      obtain ⟨key, type, raw, rfl, -⟩ := declarations f hf
      exact FieldOf.isSound_of named (fun _ => rfl) rfl rfl
    · obtain ⟨f, hf, rfl⟩ := List.mem_map.mp hc
      have tree := trees f hf
      obtain ⟨key, type, raw, rfl, declared⟩ := declarations f hf
      exact isWellFormed_of_isDeclared declared tree

end Protobuf

/-! ### JSON Schemas -/

namespace JsonSchema

theorem isWellFormed_booleanNode (accepts : Bool) : (booleanNode accepts).IsWellFormed :=
  Schema.isWellFormed_of_children rfl nofun

section

variable {path : Path}

theorem isWellFormed_of_bareType {name : String} {s : Schema} (h : bareType name path = .ok s) :
    s.IsWellFormed := by
  unfold bareType at h
  split at h
  · obtain rfl := pure_eq_ok.mp h
    exact Schema.isWellFormed_of_children rfl nofun
  split at h
  · obtain rfl := pure_eq_ok.mp h
    exact Schema.isWellFormed_of_child rfl rfl (isWellFormed_booleanNode true)
  split at h
  · obtain rfl := pure_eq_ok.mp h
    exact Schema.isWellFormed_of_children rfl nofun
  · exact absurd h fail_ne_ok

theorem isWellFormed_of_bareTypes {names : List String} {position : Nat} {nodes : List Schema}
    (h : bareTypes names position path = .ok nodes) : ∀ s ∈ nodes, s.IsWellFormed := by
  induction names generalizing position nodes with
  | nil =>
    obtain rfl := pure_eq_ok.mp h
    exact List.forall_mem_nil _
  | cons name rest ih =>
    obtain ⟨s, hs, h⟩ := bind_eq_ok.mp h
    obtain ⟨others, ho, h⟩ := bind_eq_ok.mp h
    obtain rfl := pure_eq_ok.mp h
    exact List.forall_mem_cons.mpr ⟨isWellFormed_of_bareType hs, ih ho⟩

/-- A property's field takes its documentation from its type and its default from its value. -/
theorem isSound_of_propertyField {name : String} {value : Json} {type : Schema}
    {required : List String} {f : Field} (distinct : value.hasDistinctKeys = true)
    (formed : type.IsWellFormed) (h : propertyField name value type required = .ok f) :
    f.isSound = true ∧ f.name = name ∧ f.type = type := by
  unfold propertyField at h
  split at h
  · cases h
  rename_i named
  obtain rfl := pure_eq_ok.mp h
  refine ⟨FieldOf.isSound_of named (fun absent => ?_) formed.documentation ?_, rfl, rfl⟩
  · dsimp only at absent ⊢
    split
    · rw [absent, if_neg Bool.false_ne_true]
    · rfl
  · dsimp only
    split
    · split
      · exact Json.hasDistinctKeys_memberOrNull distinct "default"
      · rfl
    · rfl

/-- A node without fields is sound if its object is read from a text. -/
theorem isSound_of_members {members : List (String × Json)} {s : Schema}
    (distinct : (Json.obj members).hasDistinctKeys = true)
    (bare : s.fields = [] ∧ s.symbolValues = []) (name : s.name = Json.memberOrNull members "title")
    (doc : s.documentation = Json.memberOrNull members "description")
    (logical : s.logicalType.hasDistinctKeys = true) : s.isSound = true := by
  have held := Json.hasDistinctKeys_memberOrNull distinct
  exact Schema.isSound_of_bare bare (name ▸ held "title") (doc ▸ held "description") logical

end

mutual

theorem isWellFormed_of_schemaOf {v : Json} {path : Path} {s : Schema}
    (h : schemaOf v path = .ok s) (distinct : v.hasDistinctKeys = true) : s.IsWellFormed := by
  match v with
  | .bool accepts =>
    rw [schemaOf_bool] at h
    cases h
    exact isWellFormed_booleanNode accepts
  | .obj members => exact isWellFormed_of_object h distinct
  | .null | .int _ | .float _ | .str _ | .arr _ =>
    rw [schemaOf.eq_def] at h
    exact absurd h fail_ne_ok
termination_by (sizeOf v, 0)
decreasing_by
  simp only [Json.obj.sizeOf_spec]
  exact Prod.Lex.left _ _ (by omega)

theorem isWellFormed_of_object {members : List (String × Json)} {path : Path} {s : Schema}
    (h : schemaOf (.obj members) path = .ok s)
    (distinct : (Json.obj members).hasDistinctKeys = true) : s.IsWellFormed := by
  rw [schemaOf_obj] at h
  dsimp only at h
  split at h
  · cases h
    exact Schema.isWellFormed_of_children
      (isSound_of_members distinct ⟨rfl, rfl⟩ rfl rfl rfl) nofun
  split at h
  · cases h
    exact Schema.isWellFormed_of_children
      (isSound_of_members distinct ⟨rfl, rfl⟩ rfl rfl rfl) nofun
  · exact absurd h fail_ne_ok
  split at h
  · rename_i options listed
    have size := Json.sizeOf_lt_of_member? listed
    have items := Json.hasDistinctKeys_arr.mp (Json.hasDistinctKeys_of_member? distinct listed)
    split at h
    · exact absurd h fail_ne_ok
    · obtain ⟨nodes, hn, h⟩ := bind_eq_ok.mp h
      obtain rfl := pure_eq_ok.mp h
      exact Schema.isWellFormed_of_children
        (isSound_of_members distinct ⟨rfl, rfl⟩ rfl rfl rfl)
        (isWellFormed_of_alternativesOf hn items)
  · exact absurd h fail_ne_ok
  split at h
  · rename_i options listed
    have size := Json.sizeOf_lt_of_member? listed
    have items := Json.hasDistinctKeys_arr.mp (Json.hasDistinctKeys_of_member? distinct listed)
    split at h
    · exact absurd h fail_ne_ok
    · obtain ⟨nodes, hn, h⟩ := bind_eq_ok.mp h
      obtain rfl := pure_eq_ok.mp h
      exact Schema.isWellFormed_of_children
        (isSound_of_members distinct ⟨rfl, rfl⟩ rfl rfl rfl)
        (isWellFormed_of_alternativesOf hn items)
  · exact absurd h fail_ne_ok
  split at h
  · obtain ⟨names, -, h⟩ := bind_eq_ok.mp h
    split at h
    · cases h
    · obtain ⟨nodes, hn, h⟩ := bind_eq_ok.mp h
      obtain rfl := pure_eq_ok.mp h
      exact Schema.isWellFormed_of_children
        (isSound_of_members distinct ⟨rfl, rfl⟩ rfl rfl rfl) (isWellFormed_of_bareTypes hn)
  · split at h
    · exact isWellFormed_of_objectOf h distinct
    split at h
    · split at h
      · rename_i items present
        have size := Json.sizeOf_lt_of_member? present
        have inner := Json.hasDistinctKeys_of_member? distinct present
        obtain ⟨node, hn, h⟩ := bind_eq_ok.mp h
        obtain rfl := pure_eq_ok.mp h
        exact Schema.isWellFormed_of_child
          (isSound_of_members distinct ⟨rfl, rfl⟩ rfl rfl rfl) rfl (isWellFormed_of_schemaOf hn inner)
      · obtain ⟨node, hn, h⟩ := bind_eq_ok.mp h
        obtain rfl := pure_eq_ok.mp h
        obtain rfl := pure_eq_ok.mp hn
        exact Schema.isWellFormed_of_child
          (isSound_of_members distinct ⟨rfl, rfl⟩ rfl rfl rfl) rfl (isWellFormed_booleanNode true)
    split at h
    · obtain rfl := pure_eq_ok.mp h
      have format := Json.hasDistinctKeys_memberOrNull distinct "format"
      exact Schema.isWellFormed_of_children
        (isSound_of_members distinct ⟨rfl, rfl⟩ rfl rfl format) nofun
    · exact absurd h fail_ne_ok
  · split at h
    · exact isWellFormed_of_objectOf h distinct
    · obtain rfl := pure_eq_ok.mp h
      exact Schema.isWellFormed_of_children
        (isSound_of_members distinct ⟨rfl, rfl⟩ rfl rfl rfl) nofun
  · exact absurd h fail_ne_ok
termination_by (sizeOf members, 1)
decreasing_by
  · simp only [Json.arr.sizeOf_spec] at size
    exact Prod.Lex.left _ _ (by omega)
  · simp only [Json.arr.sizeOf_spec] at size
    exact Prod.Lex.left _ _ (by omega)
  · exact Prod.Lex.left _ _ (by omega)
  · exact Prod.Lex.right _ (by omega)
  · exact Prod.Lex.right _ (by omega)

theorem isWellFormed_of_alternativesOf {options : List Json} {position : Nat} {path : Path}
    {nodes : List Schema} (h : alternativesOf options position path = .ok nodes)
    (distinct : ∀ v ∈ options, v.hasDistinctKeys = true) : ∀ s ∈ nodes, s.IsWellFormed := by
  match options with
  | [] =>
    rw [alternativesOf.eq_def] at h
    obtain rfl := pure_eq_ok.mp h
    exact List.forall_mem_nil _
  | option :: rest =>
    rw [alternativesOf.eq_def] at h
    obtain ⟨s, hs, h⟩ := bind_eq_ok.mp h
    obtain ⟨others, ho, h⟩ := bind_eq_ok.mp h
    obtain rfl := pure_eq_ok.mp h
    rw [List.forall_mem_cons] at distinct
    exact List.forall_mem_cons.mpr ⟨isWellFormed_of_schemaOf hs distinct.1,
      isWellFormed_of_alternativesOf ho distinct.2⟩
termination_by (sizeOf options, 0)

theorem isWellFormed_of_objectOf {members : List (String × Json)} {path : Path} {s : Schema}
    (h : objectOf members path = .ok s) (distinct : (Json.obj members).hasDistinctKeys = true) :
    s.IsWellFormed := by
  have held := Json.hasDistinctKeys_memberOrNull distinct
  have map {node : Schema} (formed : node.IsWellFormed) : Schema.IsWellFormed {
        kind := .map, name := Json.memberOrNull members "title",
        documentation := Json.memberOrNull members "description", values := some node } := by
    exact Schema.isWellFormed_of_child
      (isSound_of_members distinct ⟨rfl, rfl⟩ rfl rfl rfl) rfl formed
  rw [objectOf_eq] at h
  dsimp only at h
  split at h
  · rename_i properties present
    have size := Json.sizeOf_lt_of_member? present
    split at h
    · rename_i values hempty hobj
      have inner := Json.sizeOf_lt_of_member? (Json.member?_of_memberOrNull hobj (by simp))
      obtain ⟨node, hn, h⟩ := bind_eq_ok.mp h
      obtain rfl := pure_eq_ok.mp h
      exact map (isWellFormed_of_object hn (hobj ▸ held "additionalProperties"))
    · obtain ⟨required, hr, h⟩ := bind_eq_ok.mp h
      obtain ⟨fields, hf, h⟩ := bind_eq_ok.mp h
      obtain ⟨flag, hflag, h⟩ := bind_eq_ok.mp h
      obtain rfl := pure_eq_ok.mp h
      have listed := Json.hasDistinctKeys_obj.mp (Json.hasDistinctKeys_of_member? distinct present)
      obtain ⟨names, sound⟩ := isSound_of_fieldsOf hf listed.2
      refine Schema.isWellFormed_of_children ?_ fun c hc => ?_
      · exact Schema.isSound_of (fun _ => rfl) (names ▸ listed.1) (.inl rfl) (held "title")
          (held "description") rfl fun f hf => (sound f hf).1
      · obtain ⟨f, hf, rfl⟩ := List.mem_map.mp hc
        exact (sound f hf).2
  · exact absurd h fail_ne_ok
  · split at h
    · rename_i values hobj
      have inner := Json.sizeOf_lt_of_member? (Json.member?_of_memberOrNull hobj (by simp))
      obtain ⟨node, hn, h⟩ := bind_eq_ok.mp h
      obtain rfl := pure_eq_ok.mp h
      exact map (isWellFormed_of_object hn (hobj ▸ held "additionalProperties"))
    · obtain ⟨required, hr, h⟩ := bind_eq_ok.mp h
      obtain ⟨flag, hflag, h⟩ := bind_eq_ok.mp h
      obtain rfl := pure_eq_ok.mp h
      exact Schema.isWellFormed_of_children
        (isSound_of_members distinct ⟨rfl, rfl⟩ rfl rfl rfl) nofun
termination_by (sizeOf members, 0)
decreasing_by
  · simp only [Json.obj.sizeOf_spec] at inner
    exact Prod.Lex.left _ _ (by omega)
  · simp only [Json.obj.sizeOf_spec] at size
    exact Prod.Lex.left _ _ (by omega)
  · simp only [Json.obj.sizeOf_spec] at inner
    exact Prod.Lex.left _ _ (by omega)

/-- The fields of properties have their names, and are as sound as the properties' values. -/
theorem isSound_of_fieldsOf {properties : List (String × Json)} {required : List String}
    {path : Path} {fields : List Field} (h : fieldsOf properties required path = .ok fields)
    (distinct : ∀ entry ∈ properties, entry.2.hasDistinctKeys = true) :
    properties.map Prod.fst = fields.map FieldOf.name ∧
      ∀ f ∈ fields, f.isSound = true ∧ f.type.IsWellFormed := by
  match properties with
  | [] =>
    obtain rfl := Except.ok.inj (fieldsOf_nil.symm.trans h)
    exact ⟨rfl, List.forall_mem_nil _⟩
  | (name, value) :: rest =>
    obtain ⟨type, f, others, hs, hf, ho, rfl⟩ := fieldsOf_cons_eq_ok.mp h
    rw [List.forall_mem_cons] at distinct
    have formed := isWellFormed_of_schemaOf hs distinct.1
    obtain ⟨sound, rfl, rfl⟩ := isSound_of_propertyField distinct.1 formed hf
    obtain ⟨names, all⟩ := isSound_of_fieldsOf ho distinct.2
    exact ⟨congrArg _ names, List.forall_mem_cons.mpr ⟨⟨sound, formed⟩, all⟩⟩
termination_by (sizeOf properties, 0)
decreasing_by
  · simp only [List.cons.sizeOf_spec, Prod.mk.sizeOf_spec]
    exact Prod.Lex.left _ _ (by omega)
  · simp only [List.cons.sizeOf_spec]
    exact Prod.Lex.left _ _ (by omega)

end

end JsonSchema

/-- Every parsed tree is well-formed. -/
theorem isWellFormed_of_parse {text : String} {format : Format} {d : Document}
    (h : parse text format = .ok d) : d.root.IsWellFormed := by
  cases format with
  | avro =>
    obtain ⟨v, root, read, built, rfl⟩ := parse_avro_eq_ok.mp h
    obtain ⟨D, reading⟩ := Avro.ofJson_eq_ok.mp built
    have decoded := jsonOfSchemaText_eq_ok.mp read
    exact Avro.isWellFormed_of_reads reading (Json.hasDistinctKeys_of_ofText decoded)
  | protobuf => exact Protobuf.isWellFormed_of_ofText (failParse_eq_ok.mp h)
  | jsonSchema =>
    obtain ⟨v, read, built⟩ := bind_eq_ok.mp h
    have decoded := jsonOfSchemaText_eq_ok.mp (failParse_eq_ok.mp read)
    have distinct := Json.hasDistinctKeys_of_ofText decoded
    cases v with
    | obj members =>
      obtain ⟨uri, -, built⟩ := bind_eq_ok.mp built
      obtain ⟨root, made, built⟩ := bind_eq_ok.mp built
      obtain rfl := pure_eq_ok.mp built
      exact JsonSchema.isWellFormed_of_schemaOf made distinct
    | _ => exact absurd built JsonSchema.fail_ne_ok

end SchemaReview
