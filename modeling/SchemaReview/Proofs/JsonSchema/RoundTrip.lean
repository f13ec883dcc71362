import SchemaReview.JsonSchema.Writer
import SchemaReview.Proofs.JsonSchema.Reading
import SchemaReview.Proofs.Schema.Nodes

/-!
# Writing a JSON Schema and reading it again

A node without a label that accepts everything or nothing is written as a boolean, every other node
of a reading as an object whose keywords lead the reader back to the node. A boolean has no place
for a default, and the document itself has to be an object; these are the two cases that do not
read back.
-/
namespace SchemaReview.JsonSchema

/-- Whether a node accepts everything and has no label. -/
def IsBareAny (s : Schema) : Prop :=
  s.kind = .primitive ∧ s.typeName = some "any" ∧ s.name = .null ∧ s.documentation = .null

/-- Whether no optional property whose schema accepts everything has a default, at any depth. -/
def KeepsDefaults (s : Schema) : Prop :=
  ∀ visit ∈ s.walk, ∀ f ∈ visit.node.fields, f.hasDefault = true → IsBareAny f.type →
    f.default = .null

theorem keepsDefaults_iff {s : Schema} : KeepsDefaults s ↔
    ∀ node ∈ s.nodes, ∀ f ∈ node.fields, f.hasDefault = true → IsBareAny f.type →
      f.default = .null := by
  unfold KeepsDefaults Schema.nodes
  rw [List.forall_mem_map]

theorem KeepsDefaults.self {s : Schema} (h : KeepsDefaults s) :
    ∀ f ∈ s.fields, f.hasDefault = true → IsBareAny f.type → f.default = .null :=
  keepsDefaults_iff.mp h s s.self_mem_nodes

theorem KeepsDefaults.child {s c : Schema} (h : KeepsDefaults s) (hc : c ∈ s.children) :
    KeepsDefaults c :=
  keepsDefaults_iff.mpr fun node hn =>
    keepsDefaults_iff.mp h node (Schema.mem_nodes_of_child hc hn)

/-- Whether all members of an object are keywords. -/
def HasKeywords (members : List (String × Json)) : Prop :=
  ∀ entry ∈ members, entry.1 ∈ keywords

/-- Whether a node is written as an object of keywords that is read as the node at every path. -/
def WritesObject (s : Schema) : Prop :=
  ∃ members, toJson s = .ok (.obj members) ∧ HasKeywords members ∧
    ∀ path, schemaOf (.obj members) path = .ok s

/-- Whether a node is written as a boolean or as an object, and read back from it. -/
def WritesBack (s : Schema) : Prop :=
  (∃ accepts, s = booleanNode accepts) ∨ WritesObject s

section

variable {members rest : List (String × Json)} {key : String} {value : Json}

@[simp] theorem hasKeywords_nil : HasKeywords [] := by
  intro entry h
  cases h

@[simp] theorem hasKeywords_cons :
    HasKeywords ((key, value) :: rest) ↔ key ∈ keywords ∧ HasKeywords rest := by
  unfold HasKeywords
  rw [List.forall_mem_cons]

@[simp] theorem hasKeywords_append :
    HasKeywords (members ++ rest) ↔ HasKeywords members ∧ HasKeywords rest := by
  unfold HasKeywords
  rw [List.forall_mem_append]

@[simp] theorem hasKeywords_present :
    HasKeywords (Json.present key value) ↔ value = .null ∨ key ∈ keywords := by
  by_cases h : value = .null
  · simp [h, Json.present_null]
  · simp [h, Json.present_of_ne_null h]

theorem HasKeywords.member?_eq_none (h : HasKeywords members) (hk : key ∉ keywords) :
    Json.member? members key = none := by
  refine Json.member?_eq_none ?_
  rintro entry hm rfl
  exact hk (h entry hm)

end

theorem toJson_booleanNode (accepts : Bool) : toJson (booleanNode accepts) = .ok (.bool accepts) := by
  cases accepts <;> rfl

theorem WritesBack.toJson_eq {s : Schema} (h : WritesBack s) :
    ∃ w, toJson s = .ok w ∧ ∀ path, schemaOf w path = .ok s := by
  obtain ⟨accepts, rfl⟩ | ⟨members, hw, -, hr⟩ := h
  · exact ⟨.bool accepts, toJson_booleanNode accepts, fun path => schemaOf_bool accepts⟩
  · exact ⟨.obj members, hw, hr⟩

section

variable {name doc : Json}

theorem reference_writesObject (target : String) : WritesObject {
    kind := .reference, typeName := some target, name := name, documentation := doc } := by
  refine ⟨_, rfl, by simp [keywords], ?_⟩
  intro path
  rw [schemaOf_obj]
  simp [Json.member?_present_of_ne, Json.memberOrNull, Json.ofOption, Json.toText_str]

theorem enum_writesObject (symbols : List String) : WritesObject {
    kind := .enum, name := name, documentation := doc, symbols := symbols } := by
  refine ⟨_, rfl, by simp [keywords], ?_⟩
  intro path
  rw [schemaOf_obj]
  simp [Json.member?_present_of_ne, Json.memberOrNull, symbolOf, Function.comp_def]

theorem untyped_writesBack : WritesBack {
    kind := .primitive, typeName := some "any", name := name, documentation := doc } := by
  by_cases h : Json.present "title" name ++ Json.present "description" doc = []
  · obtain ⟨hn, hd⟩ := List.append_eq_nil_iff.mp h
    rw [Json.present_eq_nil.mp hn, Json.present_eq_nil.mp hd]
    exact .inl ⟨true, rfl⟩
  · have he := List.isEmpty_eq_false_iff.mpr h
    refine .inr ⟨_, by rw [toJson.eq_def]; simp only [isUntyped, he]; rfl,
      by simp [keywords], ?_⟩
    intro path
    rw [schemaOf_obj]
    simp [Json.member?_present_of_ne, Json.memberOrNull, Json.hasMember, pure, Except.pure]

theorem complex_not_primitive {type : String} (known : type ∈ primitiveTypes) :
    type ≠ "object" ∧ type ≠ "array" := by
  revert type
  decide

theorem primitive_writesObject {type : String} (known : type ∈ primitiveTypes) (format : Json) :
    WritesObject {
      kind := .primitive, typeName := some type, logicalType := format, name := name,
      documentation := doc } := by
  have hu : isUntyped (some type) = false := by
    revert type
    decide
  have hn := complex_not_primitive known
  refine ⟨_, by rw [toJson.eq_def]; simp [hu]; rfl, by simp [keywords], ?_⟩
  intro path
  rw [schemaOf_obj]
  simp [Json.member?_present_of_ne, Json.memberOrNull, Json.ofOption, hn, known, pure, Except.pure]

theorem array_writesObject {items : Schema} (written : WritesBack items) : WritesObject {
    kind := .array, name := name, documentation := doc, items := some items } := by
  obtain ⟨w, hw, hr⟩ := written.toJson_eq
  refine ⟨_, by rw [toJson.eq_def]; simp only [innerToJson, hw]; rfl,
    by simp [keywords], ?_⟩
  intro path
  rw [schemaOf_obj]
  simp [Json.member?_present_of_ne, Json.memberOrNull, hr, pure, Except.pure, bind, Except.bind]

/-- The empty object accepts everything, as `true` does. -/
theorem schemaOf_empty (path : Path) : schemaOf (.obj []) path = .ok (booleanNode true) := by
  rw [schemaOf_obj]
  simp [Json.memberOrNull, Json.hasMember, booleanNode, pure, Except.pure]

theorem map_writesObject {values : Schema} (written : WritesBack values)
    (never : values ≠ booleanNode false) : WritesObject {
      kind := .map, name := name, documentation := doc, values := some values } := by
  obtain ⟨accepts, rfl⟩ | ⟨members, hw, -, hr⟩ := written
  · cases accepts with
    | false => exact absurd rfl never
    | true =>
      refine ⟨_, by rw [toJson.eq_def]; simp only [innerToJson, toJson_booleanNode]; rfl,
        by simp [keywords], ?_⟩
      intro path
      rw [schemaOf_obj]
      simp [Json.member?_present_of_ne, Json.memberOrNull, objectOf_eq, schemaOf_empty, pure,
        Except.pure, bind, Except.bind]
  · refine ⟨_, by rw [toJson.eq_def]; simp only [innerToJson, hw]; rfl,
      by simp [keywords], ?_⟩
    intro path
    rw [schemaOf_obj]
    simp [Json.member?_present_of_ne, Json.memberOrNull, objectOf_eq, hr, pure, Except.pure,
      bind, Except.bind]

/-- A type of a type list. -/
def plainType (type : String) : Schema := { kind := .primitive, typeName := some type }

theorem eq_plainType {m : Schema} (tree : IsTree m) (plain : isPlainType m = true) :
    ∃ type ∈ primitiveTypes, m = plainType type := by
  simp only [isPlainType, Bool.and_eq_true, Bool.not_eq_true', beq_iff_eq, Json.isNull_iff] at plain
  obtain ⟨⟨⟨⟨hkind, hname⟩, hdoc⟩, hlogical⟩, huntyped⟩ := plain
  cases tree with
  | boolean accepts => cases accepts <;> simp [booleanNode, isUntyped] at huntyped
  | object tree =>
    cases tree with
    | untyped => simp [isUntyped] at huntyped
    | primitive known format name doc =>
      dsimp only at hname hdoc hlogical
      subst hname hdoc hlogical
      exact ⟨_, known, rfl⟩
    | _ => cases hkind

/-- The members of a union of plain types are the nodes of their type names. -/
theorem eq_map_plainType {members : List Schema} (trees : ∀ m ∈ members, IsTree m)
    (plain : members.all isPlainType = true) :
    ∃ names : List String,
      (∀ type ∈ names, type ∈ primitiveTypes) ∧ members = names.map plainType := by
  induction members with
  | nil => exact ⟨[], by simp, rfl⟩
  | cons m rest ih =>
    rw [List.forall_mem_cons] at trees
    rw [List.all_cons, Bool.and_eq_true] at plain
    obtain ⟨type, known, rfl⟩ := eq_plainType trees.1 plain.1
    obtain ⟨names, hnames, rfl⟩ := ih trees.2 plain.2
    exact ⟨type :: names, List.forall_mem_cons.mpr ⟨known, hnames⟩, rfl⟩

theorem typeNames_map (names : List String) (position : Nat) (path : Path) :
    typeNames (names.map .str) position path = .ok names := by
  induction names generalizing position with
  | nil => rfl
  | cons name rest ih =>
    rw [List.map_cons, typeNames, ih]
    rfl

theorem bareTypes_eq {names : List String} (known : ∀ type ∈ names, type ∈ primitiveTypes)
    (position : Nat) (path : Path) :
    bareTypes names position path = .ok (names.map plainType) := by
  induction names generalizing position with
  | nil => rfl
  | cons name rest ih =>
    rw [List.forall_mem_cons] at known
    have hn : name ≠ "object" ∧ name ≠ "array" := complex_not_primitive known.1
    have hb : bareType name (path ++ [.index position]) = .ok (plainType name) := by
      simp [bareType, hn, known.1, plainType, pure, Except.pure]
    rw [bareTypes, hb, ih known.2]
    rfl

theorem membersToJson_eq {members : List Schema} (written : ∀ m ∈ members, WritesBack m) :
    ∃ ws, membersToJson members = .ok ws ∧ ws.length = members.length ∧
      ∀ position path, alternativesOf ws position path = .ok members := by
  induction members with
  | nil =>
    refine ⟨[], rfl, rfl, ?_⟩
    intro position path
    rw [alternativesOf.eq_def]
    rfl
  | cons m rest ih =>
    rw [List.forall_mem_cons] at written
    obtain ⟨w, hw, hr⟩ := written.1.toJson_eq
    obtain ⟨ws, hws, hl, hrs⟩ := ih written.2
    refine ⟨w :: ws, ?_, by simp [hl], ?_⟩
    · rw [membersToJson, hw, hws]
      rfl
    · intro position path
      rw [alternativesOf.eq_def]
      dsimp only
      rw [hr, hrs]
      rfl

theorem union_writesObject {members : List Schema} (nonempty : members ≠ [])
    (trees : ∀ m ∈ members, IsTree m) (written : ∀ m ∈ members, WritesBack m) : WritesObject {
      kind := .union, name := name, documentation := doc, members := members } := by
  by_cases plain : members.all isPlainType
  · obtain ⟨names, known, rfl⟩ := eq_map_plainType trees plain
    have hne : names ≠ [] := fun h => nonempty (by rw [h]; rfl)
    refine ⟨_, by rw [toJson.eq_def]; simp only [plain]; rfl, by simp [keywords], ?_⟩
    intro path
    rw [schemaOf_obj]
    have hnames : (names.map plainType).map (fun m => Json.ofOption Json.str m.typeName) =
        names.map .str := by
      rw [List.map_map]
      rfl
    rw [hnames]
    simp [Json.member?_present_of_ne, Json.memberOrNull, typeNames_map, bareTypes_eq known, hne,
      pure, Except.pure, bind, Except.bind]
  · obtain ⟨ws, hw, hl, hr⟩ := membersToJson_eq written
    have hne : ws.isEmpty = false := by
      refine List.isEmpty_eq_false_iff.mpr (ne_nil_of_length_eq hl ?_)
      exact List.isEmpty_eq_false_iff.mpr nonempty
    refine ⟨_, by rw [toJson.eq_def]; simp only [plain, hw]; rfl, by simp [keywords], ?_⟩
    intro path
    rw [schemaOf_obj]
    simp [Json.member?_present_of_ne, Json.memberOrNull, hr, hne, pure, Except.pure, bind,
      Except.bind]

end

section

variable {required others : List String} {f : Field}

/-- The default that is read from the schema of a property. -/
def defaultOf (value : Json) (hasDefault : Bool) : Json :=
  match value with
  | .obj members => if hasDefault then Json.memberOrNull members "default" else .null
  | _ => .null

theorem propertyField_eq {w : Json} (property : IsProperty required f)
    (optional : f.hasDefault = !others.contains f.name)
    (default : defaultOf w f.hasDefault = f.default) :
    propertyField f.name w f.type others = .ok f := by
  obtain ⟨named, documented, -, -, -, htag, hlabel, hraw⟩ := property
  obtain ⟨name, type, documentation, hasDefault, value, tag, label, raw⟩ := f
  dsimp only at *
  subst documented htag hlabel hraw default
  rw [propertyField, if_neg named, optional]
  cases w <;> rfl

theorem schemaOf_setDefault (members : List (String × Json)) (value : Json) (path : Path) :
    schemaOf (.obj (Json.setMember members "default" value)) path = schemaOf (.obj members) path := by
  refine schemaOf_congr ?_
  intro key hk
  refine Json.member?_setMember_of_ne ?_
  rintro rfl
  exact absurd hk (by decide)

/-- A property is written as a schema that reads back as its type, and from which its default is
read back. -/
theorem field_readsBack (property : IsProperty required f) (written : WritesBack f.type)
    (kept : f.hasDefault = true → IsBareAny f.type → f.default = .null) :
    ∃ w, fieldToJson f = .ok (f.name, w) ∧ (∀ path, schemaOf w path = .ok f.type) ∧
      ∀ others : List String, f.hasDefault = !others.contains f.name →
        propertyField f.name w f.type others = .ok f := by
  have hf (w : Json) (hw : toJson f.type = .ok w) :
      fieldToJson f = .ok (f.name, withDefault w f.default f.hasDefault) := by
    obtain ⟨name, type, documentation, hasDefault, value, tag, label, raw⟩ := f
    rw [fieldToJson, hw]
    rfl
  obtain ⟨accepts, ht⟩ | ⟨members, hw, hk, hr⟩ := written
  · refine ⟨_, hf _ (ht ▸ toJson_booleanNode accepts), ?_, ?_⟩
    · intro path
      rw [ht]
      exact schemaOf_bool accepts
    · intro others optional
      refine propertyField_eq property optional ?_
      cases accepts with
      | false => exact (property.neverDefault ht).symm
      | true =>
        by_cases hd : f.hasDefault
        · exact (kept hd (by simp [ht, IsBareAny, booleanNode])).symm
        · exact (property.requiredDefault (by simpa using hd)).symm
  · by_cases hd : f.hasDefault && !f.default.isNull
    · refine ⟨_, hf _ hw, ?_, ?_⟩
      · intro path
        simp only [withDefault, hd, if_true]
        rw [schemaOf_setDefault, hr]
      · intro others optional
        refine propertyField_eq property optional ?_
        simp only [withDefault, hd, if_true, defaultOf, Json.memberOrNull,
          Json.member?_setMember_self]
        rw [if_pos (Bool.and_eq_true_iff.mp hd).1]
        rfl
    · refine ⟨_, hf _ hw, ?_, ?_⟩
      · intro path
        simp only [withDefault, hd]
        exact hr path
      · intro others optional
        refine propertyField_eq property optional ?_
        have habsent := hk.member?_eq_none (show "default" ∉ keywords by decide)
        have hnull : f.default = .null := by
          by_cases hb : f.hasDefault
          · simpa [hb, Json.isNull_iff] using hd
          · exact property.requiredDefault (by simpa using hb)
        have hw : withDefault (.obj members) f.default f.hasDefault = .obj members := by
          simp only [withDefault, hd]
          rfl
        rw [hw, hnull, defaultOf, Json.memberOrNull, habsent]
        exact ite_self _

theorem fieldsToJson_eq {fields : List Field}
    (readsBack : ∀ f ∈ fields, ∃ w, fieldToJson f = .ok (f.name, w) ∧
      (∀ path, schemaOf w path = .ok f.type) ∧
      ∀ others : List String, f.hasDefault = !others.contains f.name →
        propertyField f.name w f.type others = .ok f) :
    ∃ properties, fieldsToJson fields = .ok properties ∧
      ∀ (others : List String) (path : Path),
        (∀ f ∈ fields, f.hasDefault = !others.contains f.name) →
        fieldsOf properties others path = .ok fields := by
  induction fields with
  | nil =>
    exact ⟨[], rfl, fun _ _ _ => fieldsOf_nil⟩
  | cons f rest ih =>
    rw [List.forall_mem_cons] at readsBack
    obtain ⟨w, hw, hs, hp⟩ := readsBack.1
    obtain ⟨properties, hws, hf⟩ := ih readsBack.2
    refine ⟨(f.name, w) :: properties, ?_, ?_⟩
    · rw [fieldsToJson, hw, hws]
      rfl
    · intro others path optional
      rw [List.forall_mem_cons] at optional
      exact fieldsOf_cons_eq_ok.mpr
        ⟨_, f, rest, hs _, hp others optional.1, hf others path optional.2, rfl⟩

/-- The names of the properties without a default. -/
def requiredOf (fields : List Field) : List String :=
  (fields.filter fun f => !f.hasDefault).map FieldOf.name

/-- The member that lists required properties, left out if there are none. -/
def requiredMember (names : List String) : List (String × Json) :=
  if names.isEmpty then [] else [("required", .arr (names.map .str))]

theorem hasKeywords_requiredMember (names : List String) : HasKeywords (requiredMember names) := by
  unfold requiredMember
  split <;> simp [keywords]

theorem member?_requiredMember_of_ne {key : String} (h : "required" ≠ key) (names : List String) :
    Json.member? (requiredMember names) key = none := by
  unfold requiredMember
  split <;> simp [h]

theorem names_map (names : List String) (path : Path) :
    requiredNames.names path (names.map .str) = .ok names := by
  induction names with
  | nil => rfl
  | cons name rest ih =>
    rw [List.map_cons, requiredNames.names, ih]
    rfl

theorem requiredNames_requiredMember (names : List String) (path : Path) :
    requiredNames (Json.member? (requiredMember names) "required") path = .ok names := by
  cases names with
  | nil => rfl
  | cons name rest => exact names_map (name :: rest) path

/-- A field is among the required properties exactly if it has no default, because fields of one
name agree on that. -/
theorem hasDefault_eq_not_required {fields : List Field}
    (properties : ∀ f ∈ fields, IsProperty required f) :
    ∀ f ∈ fields, f.hasDefault = !(requiredOf fields).contains f.name := by
  intro f hf
  rw [(properties f hf).optional]
  congr 1
  rw [Bool.eq_iff_iff, List.contains_iff_mem, List.contains_iff_mem, requiredOf, List.mem_map]
  constructor
  · intro hr
    refine ⟨f, List.mem_filter.mpr ⟨hf, ?_⟩, rfl⟩
    rw [(properties f hf).optional, Bool.not_not]
    exact List.contains_iff_mem.mpr hr
  · rintro ⟨g, hg, hn⟩
    obtain ⟨hg, hd⟩ := List.mem_filter.mp hg
    rw [(properties g hg).optional, Bool.not_not, hn] at hd
    exact List.contains_iff_mem.mp hd

theorem schemaOf_object {members : List (String × Json)} (path : Path)
    (type : Json.member? members "type" = some (.str "object"))
    (others : ∀ key ∈ ["$ref", "enum", "anyOf", "oneOf"], Json.member? members key = none) :
    schemaOf (.obj members) path = objectOf members path := by
  rw [schemaOf_obj]
  simp [others, type, Json.memberOrNull]

theorem objectOf_record {members properties : List (String × Json)} {fields : List Field}
    {names : List String} {path : Path} (additional : Option Bool)
    (present : Json.member? members "properties" = some (.obj properties))
    (required : requiredNames (Json.member? members "required") path = .ok names)
    (read : fieldsOf properties names path = .ok fields)
    (flag : Json.memberOrNull members "additionalProperties" = Json.ofOption .bool additional) :
    objectOf members path = .ok {
      kind := .record, name := Json.memberOrNull members "title",
      documentation := Json.memberOrNull members "description", fields := fields,
      additionalProperties := additional } := by
  rw [objectOf_eq]
  simp only [present, flag, required]
  cases additional with
  | none => simp [Json.ofOption, read, additionalFlag, bind, Except.bind, pure, Except.pure]
  | some b => simp [Json.ofOption, read, additionalFlag, bind, Except.bind, pure, Except.pure]

theorem record_writesObject {fields : List Field} {name doc : Json}
    (properties : ∀ f ∈ fields, IsProperty required f)
    (written : ∀ f ∈ fields, WritesBack f.type)
    (kept : ∀ f ∈ fields, f.hasDefault = true → IsBareAny f.type → f.default = .null)
    (additional : Option Bool) : WritesObject {
      kind := .record, name := name, documentation := doc, fields := fields,
      additionalProperties := additional } := by
  obtain ⟨props, hw, hr⟩ := fieldsToJson_eq fun f hf =>
    field_readsBack (properties f hf) (written f hf) (kept f hf)
  have hwritten : toJson {
      kind := .record, name := name, documentation := doc, fields := fields,
      additionalProperties := additional } =
      .ok (.obj (Json.present "title" name ++ Json.present "description" doc ++
        [("type", .str "object"), ("properties", .obj props)] ++
        requiredMember (requiredOf fields) ++
        Json.present "additionalProperties" (Json.ofOption .bool additional))) := by
    rw [toJson.eq_def]
    simp only [hw, requiredMember, requiredOf, List.map_map, List.isEmpty_map]
    rfl
  refine ⟨_, hwritten, by simp [keywords, hasKeywords_requiredMember], ?_⟩
  intro path
  have hproperties := hr (requiredOf fields) path (hasDefault_eq_not_required properties)
  rw [schemaOf_object path (by simp [Json.member?_present_of_ne])
      (by simp [Json.member?_present_of_ne, member?_requiredMember_of_ne]),
    objectOf_record additional (by simp [Json.member?_present_of_ne])
      (by simp [Json.member?_present_of_ne, requiredNames_requiredMember]) hproperties
      (by simp [Json.member?_present_of_ne, member?_requiredMember_of_ne, Json.memberOrNull])]
  simp [Json.memberOrNull, Json.member?_present_of_ne, member?_requiredMember_of_ne]

end

mutual

/-- Every node of a reading is written back, if no default is lost below it. -/
theorem writesBack_of_isTree {s : Schema} (tree : IsTree s) (kept : KeepsDefaults s) :
    WritesBack s := by
  match tree with
  | .boolean accepts => exact .inl ⟨accepts, rfl⟩
  | .object tree => exact writesBack_of_isObjectTree tree kept

theorem writesBack_of_isObjectTree {s : Schema} (tree : IsObjectTree s) (kept : KeepsDefaults s) :
    WritesBack s := by
  match tree with
  | .untyped name doc => exact untyped_writesBack
  | .primitive known format name doc => exact .inr (primitive_writesObject known format)
  | .reference target name doc => exact .inr (reference_writesObject target)
  | .enum symbols name doc => exact .inr (enum_writesObject symbols)
  | .union nonempty trees name doc =>
    refine .inr (union_writesObject nonempty trees ?_)
    intro m hm
    exact writesBack_of_isTree (trees m hm) (kept.child hm)
  | .array tree name doc =>
    exact .inr (array_writesObject (writesBack_of_isTree tree (kept.child List.mem_cons_self)))
  | .map tree name doc =>
    refine .inr (map_writesObject ?_ tree.ne_never)
    exact writesBack_of_isObjectTree tree (kept.child List.mem_cons_self)
  | .record properties trees name doc additional =>
    refine .inr (record_writesObject properties ?_ kept.self additional)
    intro f hf
    exact writesBack_of_isTree (trees f hf) (kept.child (List.mem_map_of_mem hf))

end

/-- The member that declares a dialect, left out if there is none. -/
def dialectMember (uri : Option String) : List (String × Json) :=
  match uri with
  | some u => if u = "" then [] else [("$schema", .str u)]
  | none => []

theorem member?_dialectMember_of_ne {key : String} (h : "$schema" ≠ key) (uri : Option String) :
    Json.member? (dialectMember uri) key = none := by
  unfold dialectMember
  split
  · split <;> simp [h]
  · rfl

theorem declaredUri_dialectMember {members : List (String × Json)} (hk : HasKeywords members)
    (uri : Option String) : ∃ u, declaredUri (dialectMember uri ++ members) = .ok u := by
  have habsent := hk.member?_eq_none (show "$schema" ∉ keywords by decide)
  cases uri with
  | none =>
    exact ⟨none, by simp [declaredUri, dialectMember, Json.memberOrNull, habsent, pure, Except.pure]⟩
  | some u =>
    by_cases hu : u = ""
    · refine ⟨none, ?_⟩
      simp [declaredUri, dialectMember, hu, Json.memberOrNull, habsent, pure, Except.pure]
    · refine ⟨some u, ?_⟩
      simp [declaredUri, dialectMember, hu, Json.memberOrNull, pure, Except.pure]

theorem schemaOf_dialectMember {members : List (String × Json)} (uri : Option String)
    (path : Path) :
    schemaOf (.obj (dialectMember uri ++ members)) path = schemaOf (.obj members) path := by
  refine schemaOf_congr ?_
  intro key hk
  have hne : "$schema" ≠ key := by
    rintro rfl
    exact absurd hk (by decide)
  simp [member?_dialectMember_of_ne hne]

theorem isObjectTree_of_ofJson {v : Json} {doc : Document} (h : ofJson v = .ok doc) :
    IsObjectTree doc.root := by
  unfold ofJson at h
  split at h
  · obtain ⟨uri, hu, h⟩ := bind_eq_ok.mp h
    obtain ⟨root, hr, h⟩ := bind_eq_ok.mp h
    obtain rfl := pure_eq_ok.mp h
    exact isObjectTree_of_schemaOf hr
  · exact absurd h fail_ne_ok

theorem documentJson_eq {root : Schema} {members : List (String × Json)}
    (h : toJson root = .ok (.obj members)) (uri : Option String) :
    documentJson root uri = .ok (.obj (dialectMember uri ++ members)) := by
  unfold documentJson
  rw [h]
  rfl

/-- An accepted document is written as an object that reads back with the same root, unless the
root accepts everything and has no label or a default has no place to be written at. -/
theorem documentJson_readsBack {v : Json} {doc : Document} (h : ofJson v = .ok doc)
    (labelled : ¬ IsBareAny doc.root) (kept : KeepsDefaults doc.root) :
    ∃ members again, documentJson doc.root doc.schemaUri = .ok (.obj members) ∧
      ofJson (.obj members) = .ok again ∧ again.root = doc.root := by
  have tree := isObjectTree_of_ofJson h
  obtain ⟨accepts, hb⟩ | ⟨members, hw, hk, hr⟩ := writesBack_of_isObjectTree tree kept
  · cases accepts with
    | true => exact absurd (by simp [hb, IsBareAny, booleanNode]) labelled
    | false => exact absurd hb tree.ne_never
  · obtain ⟨u, hu⟩ := declaredUri_dialectMember hk doc.schemaUri
    refine ⟨_, { format := .jsonSchema, root := doc.root, schemaUri := u }, documentJson_eq hw _, ?_,
      rfl⟩
    rw [ofJson, hu, schemaOf_dialectMember, hr]
    rfl

/-- A document with a required property that accepts everything and an optional one with a
default. -/
def personDocument : Json :=
  .obj [("$schema", .str "urn:s"), ("type", .str "object"),
    ("properties", .obj [("extra", .bool true),
      ("age", .obj [("type", .arr [.str "integer", .str "null"]), ("default", .int 0)])]),
    ("required", .arr [.str "extra"])]

/-- What that document is read as. -/
def personRoot : Schema := {
  kind := .record,
  fields := [
    { name := "extra", type := booleanNode true },
    {
      name := "age", hasDefault := true, default := .int 0,
      type := { kind := .union, members := [plainType "integer", plainType "null"] } }] }

theorem documentJson_readsBack_person :
    ofJson personDocument =
        .ok { format := .jsonSchema, root := personRoot, schemaUri := some "urn:s" } ∧
      ∃ members again, documentJson personRoot (some "urn:s") = .ok (.obj members) ∧
        ofJson (.obj members) = .ok again ∧ again.root = personRoot := by
  have h : ofJson personDocument =
      .ok { format := .jsonSchema, root := personRoot, schemaUri := some "urn:s" } := by cbv
  have labelled : ¬ IsBareAny personRoot := by simp [IsBareAny, personRoot]
  have kept : KeepsDefaults personRoot := by
    rw [keepsDefaults_iff]
    simp [Schema.nodes_eq, Schema.children, personRoot, booleanNode, plainType, IsBareAny]
  exact ⟨h, documentJson_readsBack h labelled kept⟩

end SchemaReview.JsonSchema
