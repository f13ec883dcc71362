import SchemaReview.Proofs.JsonSchema.RoundTrip
import SchemaReview.Proofs.Schema.Shape

/-!
# Type lists

An object whose type is a list is read as a union with one member for each type. A member is read
from its type name alone. It is the node that the object gives under that type only if the object
declares nothing for the type beside the list: no properties or further properties of an object, no
items of an array, no format of a primitive type.
-/
namespace SchemaReview

/-- A node without its own label. -/
def Schema.unlabelled (s : Schema) : Schema := { s with name := .null, documentation := .null }

namespace JsonSchema

/-- An object with its type replaced by a single one. -/
def withType (members : List (String × Json)) (type : String) : List (String × Json) :=
  Json.setMember members "type" (.str type)

/-- What the items of an array type are read as. -/
def itemsOf (members : List (String × Json)) (path : Path) : Result Schema :=
  match Json.member? members "items" with
  | some items => schemaOf items path
  | none => pure (booleanNode true)

/-- What an object is read as under a single type. -/
def readingUnder (members : List (String × Json)) (path : Path) (type : String) : Result Schema :=
  if type = "object" then objectOf members path
  else if type = "array" then do
    let items ← itemsOf members path
    return { kind := .array, name := Json.memberOrNull members "title",
             documentation := Json.memberOrNull members "description", items := some items }
  else if primitiveTypes.contains type then
    return { kind := .primitive, typeName := some type,
             logicalType := Json.memberOrNull members "format",
             name := Json.memberOrNull members "title",
             documentation := Json.memberOrNull members "description" }
  else fail (.unknownType type) path

/-- Whether a list of required properties is absent or holds texts only. -/
def IsNameList (value : Option Json) : Prop :=
  ∀ given, value = some given → ∃ names : List String, given = .arr (names.map .str)

/-- Whether an object declares nothing for a type beside the type itself. -/
def DeclaresNothing (members : List (String × Json)) (path : Path) (type : String) : Prop :=
  if type = "object" then
    (∀ properties, Json.member? members "properties" = some properties → properties = .obj []) ∧
      Json.memberOrNull members "additionalProperties" = .null ∧
      IsNameList (Json.member? members "required")
  else if type = "array" then itemsOf members path = .ok (booleanNode true)
  else Json.memberOrNull members "format" = .null

/-- Whether a node is the one that an object gives under a single type, up to title and
description. -/
def IsReadingUnder (members : List (String × Json)) (path : Path) (type : String) (node : Schema) :
    Prop :=
  ∃ single, schemaOf (.obj (withType members type)) path = .ok single ∧
    node.same single.unlabelled = true

section

variable {members : List (String × Json)} {entries : List Json} {path : Path} {type key : String}
  {node single : Schema}

theorem schemaOf_of_type (h : IsReadByType members)
    (typed : Json.member? members "type" = some (.str type)) :
    schemaOf (.obj members) path = readingUnder members path type := by
  rw [schemaOf_obj]
  simp only [h.reference, h.enum, h.anyOf, h.oneOf, Json.memberOrNull_eq_of_member? typed]
  unfold readingUnder itemsOf
  cases Json.member? members "items" <;> rfl

@[simp] theorem member?_withType_self :
    Json.member? (withType members type) "type" = some (.str type) := Json.member?_setMember_self

theorem member?_withType (key : String) (other : "type" ≠ key) :
    Json.member? (withType members type) key = Json.member? members key :=
  Json.member?_setMember_of_ne other

theorem memberOrNull_withType (key : String) (other : "type" ≠ key) :
    Json.memberOrNull (withType members type) key = Json.memberOrNull members key :=
  Json.memberOrNull_congr (member?_withType key other)

theorem IsReadByType.withType (h : IsReadByType members) (type : String) :
    IsReadByType (withType members type) where
  reference := (member?_withType _ (by decide)).trans h.reference
  enum := (member?_withType _ (by decide)).trans h.enum
  anyOf := (member?_withType _ (by decide)).trans h.anyOf
  oneOf := (member?_withType _ (by decide)).trans h.oneOf

/-- The reading under a type does not look at the type that is declared. -/
theorem readingUnder_withType (other : String) :
    readingUnder (withType members other) path type = readingUnder members path type := by
  have object : objectOf (withType members other) path = objectOf members path := by
    rw [objectOf_eq, objectOf_eq]
    simp only [member?_withType "properties" (by decide),
      member?_withType "required" (by decide),
      memberOrNull_withType "title" (by decide),
      memberOrNull_withType "description" (by decide),
      memberOrNull_withType "additionalProperties" (by decide)]
  unfold readingUnder itemsOf
  simp only [object, member?_withType "items" (by decide),
    memberOrNull_withType "title" (by decide),
    memberOrNull_withType "description" (by decide),
    memberOrNull_withType "format" (by decide)]

theorem schemaOf_withType (h : IsReadByType members) :
    schemaOf (.obj (withType members type)) path = readingUnder members path type := by
  rw [schemaOf_of_type (h.withType type) member?_withType_self, readingUnder_withType]

/-- The node of a type name by that name. -/
theorem bareType_eq_ok (h : bareType type path = .ok node) :
    (type = "object" ∧ node = { kind := .record }) ∨
      (type = "array" ∧ node = { kind := .array, items := some (booleanNode true) }) ∨
      (type ∈ primitiveTypes ∧ node = { kind := .primitive, typeName := some type }) := by
  unfold bareType at h
  split at h
  · rename_i object
    exact .inl ⟨object, (pure_eq_ok.mp h).symm⟩
  split at h
  · rename_i array
    exact .inr (.inl ⟨array, (pure_eq_ok.mp h).symm⟩)
  split at h
  · rename_i primitive
    exact .inr (.inr ⟨List.contains_iff_mem.mp primitive, (pure_eq_ok.mp h).symm⟩)
  · exact absurd h fail_ne_ok

/-- The node of a type name is what an object with nothing but this type is read as. -/
theorem schemaOf_bareType (h : bareType type path = .ok node) (place : Path) :
    schemaOf (.obj [("type", .str type)]) place = .ok node := by
  have plain : IsReadByType [("type", .str type)] := ⟨rfl, rfl, rfl, rfl⟩
  rw [schemaOf_of_type plain rfl]
  obtain ⟨rfl, rfl⟩ | ⟨rfl, rfl⟩ | ⟨known, rfl⟩ := bareType_eq_ok h
  · unfold readingUnder
    rw [if_pos rfl, objectOf_eq]
    rfl
  · rfl
  · obtain ⟨object, array⟩ := complex_not_primitive known
    unfold readingUnder
    rw [if_neg object, if_neg array, if_pos (List.contains_iff_mem.mpr known)]
    rfl

/-! ### What each type leaves out -/

theorem eq_null_of_null_same {a : Json} (h : Json.null.same a = true) : a = .null := by
  cases a with
  | null => rfl
  | _ => cases h

theorem exists_names_eq_ok {items : List Json} :
    (∃ names, requiredNames.names path items = .ok names) ↔
      ∃ names : List String, items = names.map .str := by
  induction items with
  | nil => exact ⟨fun _ => ⟨[], rfl⟩, fun _ => ⟨[], rfl⟩⟩
  | cons item rest ih =>
    cases item with
    | str name =>
      rw [requiredNames.names]
      constructor
      · rintro ⟨_, h⟩
        obtain ⟨others, ho, -⟩ := bind_eq_ok.mp h
        obtain ⟨names, rfl⟩ := ih.mp ⟨others, ho⟩
        exact ⟨name :: names, rfl⟩
      · rintro ⟨names, h⟩
        cases names with
        | nil => cases h
        | cons first names =>
          obtain ⟨others, ho⟩ := ih.mpr ⟨names, (List.cons.inj h).2⟩
          exact ⟨name :: others, by rw [ho]; rfl⟩
    | null | bool | int | float | arr | obj =>
      constructor
      · rintro ⟨_, h⟩
        cases h
      · rintro ⟨names, h⟩
        cases names <;> cases h

theorem requiredNames_eq_ok {value : Option Json} :
    (∃ names, requiredNames value path = .ok names) ↔ IsNameList value := by
  cases value with
  | none => exact ⟨fun _ _ same => (Option.some_ne_none _ same.symm).elim, fun _ => ⟨[], rfl⟩⟩
  | some given =>
    cases given with
    | arr items =>
      refine exists_names_eq_ok.trans ⟨?_, fun h => ?_⟩
      · rintro ⟨names, rfl⟩ given same
        exact ⟨names, (Option.some.inj same).symm⟩
      · obtain ⟨names, same⟩ := h _ rfl
        exact ⟨names, Json.arr.inj same⟩
    | null | bool | int | float | str | obj =>
      constructor
      · rintro ⟨_, h⟩
        cases h
      · intro h
        obtain ⟨names, same⟩ := h _ rfl
        cases same

theorem additionalFlag_eq_none {value : Json} :
    additionalFlag value path = .ok none ↔ value = .null := by
  cases value with
  | null => exact ⟨fun _ => rfl, fun _ => rfl⟩
  | _ => exact ⟨nofun, nofun⟩

theorem eq_nil_of_fieldsOf {properties : List (String × Json)} {required : List String}
    (h : fieldsOf properties required path = .ok []) : properties = [] := by
  cases properties with
  | nil => rfl
  | cons property rest =>
    obtain ⟨_, _, _, -, -, -, read⟩ := fieldsOf_cons_eq_ok.mp h
    cases read

/-- The empty record is like a record without fields and without a word on other ones. -/
theorem of_record_same (h : ({ kind := .record } : Schema).same single.unlabelled = true) :
    single.kind = .record ∧ single.fields = [] ∧ single.additionalProperties = none := by
  have equal := Schema.same_iff.mp h
  exact ⟨equal.kind.symm, List.forall₂_nil_left_iff.mp equal.fields,
    equal.additionalProperties.symm⟩

theorem record_same_unlabelled (name documentation : Json) :
    ({ kind := .record } : Schema).same
      ({ kind := .record, name := name, documentation := documentation } : Schema).unlabelled =
        true := by
  simp [Schema.same, Schema.unlabelled, Schema.sameFields, Schema.sameOption, Schema.sameList,
    Json.same]

theorem of_array_same {items : Schema}
    (h : ({ kind := .array, items := some items } : Schema).same single.unlabelled = true) :
    ∃ others, single.items = some others ∧ items.same others = true := by
  have held : Option.Rel _ (some items) single.items := (Schema.same_iff.mp h).items
  cases given : single.items with
  | none =>
    rw [given] at held
    cases held
  | some others =>
    rw [given] at held
    cases held with
    | some same => exact ⟨others, rfl, same⟩

theorem of_primitive_same
    (h : ({ kind := .primitive, typeName := some type } : Schema).same single.unlabelled = true) :
    single.logicalType = .null :=
  eq_null_of_null_same (Schema.same_iff.mp h).logicalType

/-- Only the node that accepts everything and has no label is like that node. -/
theorem eq_of_booleanNode_same (h : (booleanNode true).same node = true) :
    node = booleanNode true := by
  obtain ⟨kind, name, qualifier, documentation, fields, typeName, logicalType, size, symbols,
    symbolValues, items, values, members, additional⟩ := Schema.same_iff.mp h
  cases node
  cases eq_null_of_null_same name
  cases eq_null_of_null_same documentation
  cases eq_null_of_null_same logicalType
  cases fields
  cases items
  cases values
  cases members
  cases kind
  cases qualifier
  cases typeName
  cases size
  cases symbols
  cases symbolValues
  cases additional
  rfl

/-- An object type adds nothing to the empty record if it declares nothing. -/
theorem isReadingUnder_object (h : IsReadByType members) :
    IsReadingUnder members path "object" { kind := .record } ↔
      DeclaresNothing members path "object" := by
  unfold IsReadingUnder DeclaresNothing
  rw [schemaOf_withType h, readingUnder, if_pos rfl, if_pos rfl, objectOf_eq]
  dsimp only
  constructor
  · rintro ⟨single, read, same⟩
    obtain ⟨kind, fields, additional⟩ := of_record_same same
    split at read
    · rename_i properties present
      split at read
      · obtain ⟨values, -, read⟩ := bind_eq_ok.mp read
        obtain rfl := pure_eq_ok.mp read
        cases kind
      · obtain ⟨required, hr, read⟩ := bind_eq_ok.mp read
        obtain ⟨others, hf, read⟩ := bind_eq_ok.mp read
        obtain ⟨flag, hflag, read⟩ := bind_eq_ok.mp read
        obtain rfl := pure_eq_ok.mp read
        dsimp only at fields additional
        subst fields additional
        refine ⟨fun given same => ?_, additionalFlag_eq_none.mp hflag,
          requiredNames_eq_ok.mp ⟨required, hr⟩⟩
        rw [present, eq_nil_of_fieldsOf hf] at same
        exact (Option.some.inj same).symm
    · exact absurd read fail_ne_ok
    · rename_i absent
      split at read
      · obtain ⟨values, -, read⟩ := bind_eq_ok.mp read
        obtain rfl := pure_eq_ok.mp read
        cases kind
      · obtain ⟨required, hr, read⟩ := bind_eq_ok.mp read
        obtain ⟨flag, hflag, read⟩ := bind_eq_ok.mp read
        obtain rfl := pure_eq_ok.mp read
        dsimp only at additional
        subst additional
        refine ⟨fun given same => ?_, additionalFlag_eq_none.mp hflag,
          requiredNames_eq_ok.mp ⟨required, hr⟩⟩
        rw [absent] at same
        cases same
  · rintro ⟨properties, additional, required⟩
    obtain ⟨names, named⟩ : ∃ names,
        requiredNames (Json.member? members "required") path = .ok names :=
      requiredNames_eq_ok.mpr required
    rw [additional, named]
    cases present : Json.member? members "properties" with
    | none => exact ⟨_, rfl, record_same_unlabelled ..⟩
    | some given =>
      obtain rfl := properties given present
      have fields : fieldsOf [] names path = .ok [] := fieldsOf_nil
      simp only [bind, Except.bind, fields]
      exact ⟨_, rfl, record_same_unlabelled ..⟩

/-- An array type adds nothing if its items are those of any array. -/
theorem isReadingUnder_array (h : IsReadByType members) :
    IsReadingUnder members path "array" { kind := .array, items := some (booleanNode true) } ↔
      DeclaresNothing members path "array" := by
  have other : "array" ≠ "object" := by decide
  unfold IsReadingUnder DeclaresNothing
  rw [schemaOf_withType h, readingUnder, if_neg other, if_pos rfl, if_neg other, if_pos rfl]
  constructor
  · rintro ⟨single, read, same⟩
    obtain ⟨items, hi, read⟩ := bind_eq_ok.mp read
    obtain rfl := pure_eq_ok.mp read
    obtain ⟨others, held, same⟩ := of_array_same same
    cases held
    rw [hi, eq_of_booleanNode_same same]
  · intro items
    rw [items]
    refine ⟨_, rfl, ?_⟩
    simp [Schema.same, Schema.unlabelled, Schema.sameFields, Schema.sameOption, Schema.sameList,
      booleanNode, Json.same]

/-- A primitive type adds nothing if no format is given. -/
theorem isReadingUnder_primitive (h : IsReadByType members) (known : type ∈ primitiveTypes) :
    IsReadingUnder members path type { kind := .primitive, typeName := some type } ↔
      DeclaresNothing members path type := by
  obtain ⟨object, array⟩ := complex_not_primitive known
  unfold IsReadingUnder DeclaresNothing
  rw [schemaOf_withType h, readingUnder, if_neg object, if_neg array,
    if_pos (List.contains_iff_mem.mpr known), if_neg object, if_neg array]
  constructor
  · rintro ⟨single, read, same⟩
    obtain rfl := pure_eq_ok.mp read
    exact of_primitive_same same
  · intro format
    refine ⟨_, rfl, ?_⟩
    simp [Schema.same, Schema.unlabelled, Schema.sameFields, Schema.sameOption, Schema.sameList,
      Json.same, format]

theorem isReadingUnder_of_bareType (h : IsReadByType members) {place : Path}
    (bare : bareType type place = .ok node) :
    IsReadingUnder members path type node ↔ DeclaresNothing members path type := by
  obtain ⟨rfl, rfl⟩ | ⟨rfl, rfl⟩ | ⟨known, rfl⟩ := bareType_eq_ok bare
  · exact isReadingUnder_object h
  · exact isReadingUnder_array h
  · exact isReadingUnder_primitive h known

/-! ### The members of the union -/

theorem typeNames_eq_ok {names : List String} {position : Nat}
    (h : typeNames entries position path = .ok names) : entries = names.map .str := by
  induction entries generalizing names position with
  | nil =>
    obtain rfl := pure_eq_ok.mp h
    rfl
  | cons entry rest ih =>
    cases entry with
    | str type =>
      obtain ⟨others, ho, h⟩ := bind_eq_ok.mp h
      obtain rfl := pure_eq_ok.mp h
      rw [ih ho]
      rfl
    | null | bool | int | float | arr | obj => exact absurd h fail_ne_ok

theorem forall₂_of_bareTypes {names : List String} {position : Nat} {nodes : List Schema}
    (h : bareTypes names position path = .ok nodes) :
    List.Forall₂ (fun type node => ∃ place, bareType type place = .ok node) names nodes := by
  induction names generalizing position nodes with
  | nil =>
    obtain rfl := pure_eq_ok.mp h
    exact .nil
  | cons type rest ih =>
    obtain ⟨node, bare, h⟩ := bind_eq_ok.mp h
    obtain ⟨others, ho, h⟩ := bind_eq_ok.mp h
    obtain rfl := pure_eq_ok.mp h
    exact .cons ⟨_, bare⟩ (ih ho)

end

/-- An object whose type is a list, wherever it stands, is read as a union with the label of the
object. For each type of the list it has a member, which is what the type alone is read as. This is
what the object is read as under that type, up to the label, exactly if the object declares nothing
for the type beside the list. -/
theorem schemaOf_typeList {members : List (String × Json)} {entries : List Json} {path : Path}
    {model : Schema} (byType : IsReadByType members)
    (listed : Json.member? members "type" = some (.arr entries))
    (read : schemaOf (.obj members) path = .ok model) :
    ∃ names : List String, names ≠ [] ∧ entries = names.map .str ∧ ∃ nodes,
      model = { kind := .union, name := Json.memberOrNull members "title",
                documentation := Json.memberOrNull members "description", members := nodes } ∧
      List.Forall₂ (fun type node =>
        schemaOf (.obj [("type", .str type)]) path = .ok node ∧
          (IsReadingUnder members path type node ↔ DeclaresNothing members path type))
        names nodes := by
  rw [schemaOf_obj] at read
  simp only [byType.reference, byType.enum, byType.anyOf, byType.oneOf,
    Json.memberOrNull_eq_of_member? listed] at read
  obtain ⟨names, named, read⟩ := bind_eq_ok.mp read
  split at read
  · cases read
  · rename_i nonempty
    obtain ⟨nodes, bare, read⟩ := bind_eq_ok.mp read
    obtain rfl := pure_eq_ok.mp read
    refine ⟨names, by simpa using nonempty, typeNames_eq_ok named, nodes, rfl, ?_⟩
    refine (forall₂_of_bareTypes bare).imp ?_
    rintro type node ⟨place, bare⟩
    exact ⟨schemaOf_bareType bare path, isReadingUnder_of_bareType byType bare⟩

/-- A list of anything, or nothing. -/
def optionalTags : List (String × Json) :=
  [("title", .str "Tags"), ("type", .arr [.str "array", .str "null"]), ("items", .bool true)]

theorem schemaOf_typeList_tags : IsReadByType optionalTags ∧
    ∃ nodes, schemaOf (.obj optionalTags) [] =
        .ok { kind := .union, name := .str "Tags", members := nodes } ∧
      List.Forall₂ (IsReadingUnder optionalTags []) ["array", "null"] nodes := by
  have byType : IsReadByType optionalTags := ⟨rfl, rfl, rfl, rfl⟩
  have items : itemsOf optionalTags [] = .ok (booleanNode true) := schemaOf_bool true
  have read : schemaOf (.obj optionalTags) [] = .ok {
      kind := .union, name := .str "Tags",
      members := [{ kind := .array, items := some (booleanNode true) },
                  { kind := .primitive, typeName := some "null" }] } := by
    rw [schemaOf_obj]
    rfl
  obtain ⟨names, -, listed, nodes, model, readings⟩ := schemaOf_typeList byType rfl read
  obtain rfl : names = ["array", "null"] := by
    have texts : (["array", "null"].map Json.str) = names.map .str := listed
    exact (List.map_injective_iff.mpr fun _ _ same => Json.str.inj same) texts.symm
  refine ⟨byType, nodes, read.trans (congrArg _ model), ?_⟩
  cases readings with
  | cons array rest =>
    cases rest with
    | cons none rest =>
      cases rest
      exact .cons (array.2.mpr items) (.cons (none.2.mpr rfl) .nil)

/-- An address with a zip code, or nothing. -/
def nullableAddress : List (String × Json) :=
  [("type", .arr [.str "object", .str "null"]),
    ("properties", .obj [("zip", .obj [("type", .str "string")])])]

/-- The fields of an object that may be null are lost. -/
theorem nullableAddress_loses_fields : IsReadByType nullableAddress ∧
    schemaOf (.obj nullableAddress) [] = .ok {
      kind := .union,
      members := [{ kind := .record }, { kind := .primitive, typeName := some "null" }] } ∧
    (∃ single, schemaOf (.obj (withType nullableAddress "object")) [] = .ok single ∧
      single.fields.map FieldOf.name = ["zip"]) ∧
    ¬IsReadingUnder nullableAddress [] "object" { kind := .record } := by
  have byType : IsReadByType nullableAddress := ⟨rfl, rfl, rfl, rfl⟩
  refine ⟨byType, ?_, ?_, ?_⟩
  · rw [schemaOf_obj]
    rfl
  · have names : (fun s : Schema => s.fields.map FieldOf.name) <$>
        schemaOf (.obj (withType nullableAddress "object")) [] = .ok ["zip"] := by
      cbv
    exact map_eq_ok.mp names
  · rw [isReadingUnder_object byType]
    intro nothing
    have empty := nothing.1 (.obj [("zip", .obj [("type", .str "string")])]) rfl
    cases empty

end JsonSchema
end SchemaReview
