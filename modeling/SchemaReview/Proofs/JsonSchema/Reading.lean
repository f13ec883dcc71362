import Mathlib
import SchemaReview.JsonSchema.Reader
import SchemaReview.Proofs.Json.Member
import SchemaReview.Proofs.Outcome

/-!
# The trees that the reader of JSON Schemas yields

Each step of the reader as an equation without the proofs that serve its termination; from these,
that a reading depends on a few keywords of an object only, and which nodes a reading can yield.
-/
namespace SchemaReview.JsonSchema

/-- The keywords that the reader of a schema looks at. -/
def keywords : List String :=
  ["title", "description", "$ref", "enum", "anyOf", "oneOf", "type", "items", "format",
    "properties", "additionalProperties", "required"]

/-- Whether an object is read by its type: it has none of the keywords that come before. -/
structure IsReadByType (members : List (String × Json)) : Prop where
  reference : Json.member? members "$ref" = none
  enum : Json.member? members "enum" = none
  anyOf : Json.member? members "anyOf" = none
  oneOf : Json.member? members "oneOf" = none

/-- A property of a record whose required properties are given. Its default is kept only where the
property is optional and its schema was an object, which the schema of nothing is not. -/
structure IsProperty (required : List String) (f : Field) : Prop where
  named : f.name ≠ ""
  documented : f.documentation = f.type.documentation
  optional : f.hasDefault = !required.contains f.name
  requiredDefault : f.hasDefault = false → f.default = .null
  neverDefault : f.type = booleanNode false → f.default = .null
  rest : f.tag = none ∧ f.label = none ∧ f.raw = none

mutual

/-- The nodes that a reading yields. -/
inductive IsTree : Schema → Prop
  | boolean (accepts : Bool) : IsTree (booleanNode accepts)
  | object {s} (tree : IsObjectTree s) : IsTree s

/-- The nodes that objects are read as. -/
inductive IsObjectTree : Schema → Prop
  | untyped (name doc : Json) : IsObjectTree {
      kind := .primitive, typeName := some "any", name := name, documentation := doc }
  | primitive {type} (known : type ∈ primitiveTypes) (format name doc : Json) : IsObjectTree {
      kind := .primitive, typeName := some type, logicalType := format, name := name,
      documentation := doc }
  | reference (target : String) (name doc : Json) : IsObjectTree {
      kind := .reference, typeName := some target, name := name, documentation := doc }
  | enum (symbols : List String) (name doc : Json) : IsObjectTree {
      kind := .enum, name := name, documentation := doc, symbols := symbols }
  | union {members} (nonempty : members ≠ []) (trees : ∀ m ∈ members, IsTree m)
      (name doc : Json) : IsObjectTree {
      kind := .union, name := name, documentation := doc, members := members }
  | array {items} (tree : IsTree items) (name doc : Json) : IsObjectTree {
      kind := .array, name := name, documentation := doc, items := some items }
  | map {values} (tree : IsObjectTree values) (name doc : Json) : IsObjectTree {
      kind := .map, name := name, documentation := doc, values := some values }
  | record {required fields} (properties : ∀ f ∈ fields, IsProperty required f)
      (trees : ∀ f ∈ fields, IsTree f.type) (name doc : Json) (additional : Option Bool) :
      IsObjectTree {
        kind := .record, name := name, documentation := doc, fields := fields,
        additionalProperties := additional }

end

section

variable {path : Path} {members : List (String × Json)}

theorem schemaOf_bool (accepts : Bool) : schemaOf (.bool accepts) path = .ok (booleanNode accepts) := by
  rw [schemaOf.eq_def]
  rfl

theorem schemaOf_obj (members : List (String × Json)) (path : Path) :
    schemaOf (.obj members) path =
      let name := Json.memberOrNull members "title"
      let doc := Json.memberOrNull members "description"
      match Json.member? members "$ref" with
      | some target =>
        .ok { kind := .reference, typeName := some target.toText, name := name,
              documentation := doc }
      | none =>
      match Json.member? members "enum" with
      | some (.arr items) =>
        .ok { kind := .enum, name := name, documentation := doc, symbols := items.map symbolOf }
      | some _ => fail .enumNotArray path
      | none =>
      match Json.member? members "anyOf" with
      | some (.arr options) =>
        if options.isEmpty then fail (.emptyAlternatives "anyOf") path
        else do
          return { kind := .union, name := name, documentation := doc,
                   members := ← alternativesOf options 0 path }
      | some _ => fail (.emptyAlternatives "anyOf") path
      | none =>
      match Json.member? members "oneOf" with
      | some (.arr options) =>
        if options.isEmpty then fail (.emptyAlternatives "oneOf") path
        else do
          return { kind := .union, name := name, documentation := doc,
                   members := ← alternativesOf options 0 path }
      | some _ => fail (.emptyAlternatives "oneOf") path
      | none =>
      match Json.memberOrNull members "type" with
      | .arr entries => do
        let names ← typeNames entries 0 path
        if names.isEmpty then fail .emptyTypeList path
        return { kind := .union, name := name, documentation := doc,
                 members := ← bareTypes names 0 path }
      | .str type =>
        if type = "object" then objectOf members path
        else if type = "array" then do
          let items ←
            match Json.member? members "items" with
            | some items => schemaOf items path
            | none => pure (booleanNode true)
          return { kind := .array, name := name, documentation := doc, items := some items }
        else if primitiveTypes.contains type then
          return { kind := .primitive, typeName := some type,
                   logicalType := Json.memberOrNull members "format", name := name,
                   documentation := doc }
        else fail (.unknownType type) path
      | .null =>
        if Json.hasMember members "properties" then objectOf members path
        else
          return { kind := .primitive, typeName := some "any", name := name, documentation := doc }
      | other => fail (.typeNotString other.typeName) path := by
  rw [schemaOf.eq_def]
  dsimp only
  cases Json.member? members "$ref" with
  | some target => rfl
  | none => ?_
  dsimp only
  cases Json.member? members "enum" with
  | some listed => cases listed <;> rfl
  | none => ?_
  dsimp only
  split
  · rename_i h
    simp only [h]
  · rename_i h
    simp only [h]
  rename_i h
  simp only [h]
  split
  · rename_i h
    simp only [h]
  · rename_i h
    simp only [h]
  rename_i h
  simp only [h]
  congr 1
  funext type
  split
  · rfl
  split
  · split <;> rename_i h <;> simp only [h]
  rfl

theorem objectOf_eq (members : List (String × Json)) (path : Path) :
    objectOf members path =
      let name := Json.memberOrNull members "title"
      let doc := Json.memberOrNull members "description"
      let additional := Json.memberOrNull members "additionalProperties"
      match Json.member? members "properties" with
      | some (.obj properties) =>
        match properties.isEmpty, additional with
        | true, .obj values => do
          return { kind := .map, name := name, documentation := doc,
                   values := some (← schemaOf (.obj values) path) }
        | _, _ => do
          let required ← requiredNames (Json.member? members "required") path
          let fields ← fieldsOf properties required path
          let flag ← additionalFlag additional path
          return { kind := .record, name := name, documentation := doc, fields := fields,
                   additionalProperties := flag }
      | some _ => fail .propertiesNotObject path
      | none =>
        match additional with
        | .obj values => do
          return { kind := .map, name := name, documentation := doc,
                   values := some (← schemaOf (.obj values) path) }
        | _ => do
          let _ ← requiredNames (Json.member? members "required") path
          let flag ← additionalFlag additional path
          return { kind := .record, name := name, documentation := doc,
                   additionalProperties := flag } := by
  rw [objectOf.eq_def]
  dsimp only
  split
  · rename_i properties hp
    simp only [hp]
    split
    · rename_i inner values hempty hobj hv
      rw [Json.memberOrNull_eq_of_member? hv] at hobj
      subst hobj
      simp only [hempty, Json.memberOrNull_eq_of_member? hv]
    · rename_i hnone
      split
      · rename_i hempty hobj
        exact (hnone _ _ hempty hobj
          (Json.member?_of_memberOrNull hobj (by simp))).elim
      · rfl
  · rename_i h
    simp only [h]
  · rename_i h
    simp only [h]
    split
    · rename_i inner values hobj hv
      rw [Json.memberOrNull_eq_of_member? hv] at hobj
      subst hobj
      simp only [Json.memberOrNull_eq_of_member? hv]
    · rename_i hnone
      split
      · rename_i hobj
        exact (hnone _ _ hobj (Json.member?_of_memberOrNull hobj (by simp))).elim
      · rfl

theorem fieldsOf_nil {required : List String} : fieldsOf [] required path = .ok [] := by
  rw [fieldsOf.eq_def]
  rfl

theorem fieldsOf_cons_eq_ok {name : String} {value : Json} {rest : List (String × Json)}
    {required : List String} {fields : List Field} :
    fieldsOf ((name, value) :: rest) required path = .ok fields ↔
      ∃ type f others, schemaOf value (path ++ [.name name]) = .ok type ∧
        propertyField name value type required = .ok f ∧
        fieldsOf rest required path = .ok others ∧ fields = f :: others := by
  rw [fieldsOf.eq_def]
  constructor
  · intro h
    obtain ⟨type, hs, h⟩ := bind_eq_ok.mp h
    obtain ⟨f, hf, h⟩ := bind_eq_ok.mp h
    obtain ⟨others, ho, h⟩ := bind_eq_ok.mp h
    exact ⟨type, f, others, hs, hf, ho, (pure_eq_ok.mp h).symm⟩
  · rintro ⟨type, f, others, hs, hf, ho, rfl⟩
    exact bind_eq_ok.mpr ⟨type, hs, bind_eq_ok.mpr ⟨f, hf, bind_eq_ok.mpr ⟨others, ho, rfl⟩⟩⟩

theorem objectOf_congr {others : List (String × Json)}
    (h : ∀ key ∈ keywords, Json.member? members key = Json.member? others key) :
    objectOf members path = objectOf others path := by
  rw [objectOf_eq, objectOf_eq]
  simp only [Json.memberOrNull, h "title" (by decide), h "description" (by decide),
    h "additionalProperties" (by decide), h "properties" (by decide), h "required" (by decide)]

/-- A reading depends on the keywords of an object only. -/
theorem schemaOf_congr {others : List (String × Json)}
    (h : ∀ key ∈ keywords, Json.member? members key = Json.member? others key) :
    schemaOf (.obj members) path = schemaOf (.obj others) path := by
  rw [schemaOf_obj, schemaOf_obj, objectOf_congr h,
    Json.hasMember_congr (h "properties" (by decide))]
  simp only [Json.memberOrNull, h "title" (by decide), h "description" (by decide),
    h "$ref" (by decide), h "enum" (by decide), h "anyOf" (by decide), h "oneOf" (by decide),
    h "type" (by decide), h "items" (by decide), h "format" (by decide)]

theorem fail_ne_ok {α : Type} {fault : Fault} {a : α} :
    (fail fault path : Result α) ≠ .ok a := by
  intro h
  cases h

theorem IsObjectTree.ne_never {s : Schema} (h : IsObjectTree s) : s ≠ booleanNode false := by
  intro he
  cases h with
  | untyped => simp [booleanNode] at he
  | primitive known =>
    simp only [booleanNode, Schema.mk.injEq, Option.some.injEq] at he
    rw [he.2.2.2.2.2.1] at known
    exact absurd known (by decide)
  | _ => simp [booleanNode] at he

theorem isObjectTree_emptyRecord (name doc : Json) (additional : Option Bool) : IsObjectTree {
    kind := .record, name := name, documentation := doc, additionalProperties := additional } := by
  have properties : ∀ f ∈ ([] : List Field), IsProperty [] f := by simp
  exact .record properties (by simp) name doc additional

theorem isTree_of_bareType {name : String} {s : Schema} (h : bareType name path = .ok s) :
    IsTree s := by
  unfold bareType at h
  split at h
  · obtain rfl := pure_eq_ok.mp h
    exact .object (isObjectTree_emptyRecord ..)
  split at h
  · obtain rfl := pure_eq_ok.mp h
    exact .object (.array (.boolean true) ..)
  split at h
  · rename_i known
    obtain rfl := pure_eq_ok.mp h
    exact .object (.primitive (by simpa using known) ..)
  · exact absurd h fail_ne_ok

theorem isTree_of_bareTypes {names : List String} {position : Nat} {nodes : List Schema}
    (h : bareTypes names position path = .ok nodes) :
    nodes.length = names.length ∧ ∀ s ∈ nodes, IsTree s := by
  induction names generalizing position nodes with
  | nil =>
    obtain rfl := pure_eq_ok.mp h
    simp
  | cons name rest ih =>
    obtain ⟨s, hs, h⟩ := bind_eq_ok.mp h
    obtain ⟨others, ho, h⟩ := bind_eq_ok.mp h
    obtain rfl := pure_eq_ok.mp h
    obtain ⟨hl, ht⟩ := ih ho
    refine ⟨by simp [hl], ?_⟩
    rintro t (_ | ⟨_, hm⟩)
    · exact isTree_of_bareType hs
    · exact ht t hm

theorem isProperty_of_propertyField {name : String} {value : Json} {type : Schema}
    {required : List String} {f : Field}
    (never : ∀ members, value = .obj members → type ≠ booleanNode false)
    (h : propertyField name value type required = .ok f) :
    IsProperty required f ∧ f.type = type := by
  unfold propertyField at h
  split at h
  · cases h
  rename_i hn
  obtain rfl := pure_eq_ok.mp h
  refine ⟨⟨hn, rfl, rfl, ?_, ?_, rfl, rfl, rfl⟩, rfl⟩
  · intro hr
    dsimp only at hr ⊢
    split
    · simp only [hr, Bool.false_eq_true, if_false]
    · rfl
  · intro ht
    dsimp only at ht ⊢
    split
    · exact absurd ht (never _ rfl)
    · rfl

theorem ne_nil_of_length_eq {α β : Type} {xs : List α} {ys : List β} (h : xs.length = ys.length)
    (hn : ys.isEmpty = false) : xs ≠ [] := by
  rintro rfl
  cases ys with
  | nil => cases hn
  | cons y ys => cases h

end

mutual

theorem isTree_of_schemaOf {v : Json} {path : Path} {s : Schema} (h : schemaOf v path = .ok s) :
    IsTree s := by
  match v with
  | .bool accepts =>
    rw [schemaOf_bool] at h
    cases h
    exact .boolean accepts
  | .obj members => exact .object (isObjectTree_of_schemaOf h)
  | .null | .int _ | .float _ | .str _ | .arr _ =>
    rw [schemaOf.eq_def] at h
    exact absurd h fail_ne_ok
termination_by (sizeOf v, 0)
decreasing_by
  simp only [Json.obj.sizeOf_spec]
  exact Prod.Lex.left _ _ (by omega)

theorem isObjectTree_of_schemaOf {members : List (String × Json)} {path : Path} {s : Schema}
    (h : schemaOf (.obj members) path = .ok s) : IsObjectTree s := by
  rw [schemaOf_obj] at h
  dsimp only at h
  split at h
  · cases h
    exact .reference ..
  split at h
  · cases h
    exact .enum ..
  · exact absurd h fail_ne_ok
  split at h
  · rename_i options listed
    have size := Json.sizeOf_lt_of_member? listed
    split at h
    · exact absurd h fail_ne_ok
    · rename_i nonempty
      obtain ⟨nodes, hn, h⟩ := bind_eq_ok.mp h
      obtain rfl := pure_eq_ok.mp h
      obtain ⟨hl, ht⟩ := trees_of_alternativesOf hn
      exact .union (ne_nil_of_length_eq hl (by simpa using nonempty)) ht ..
  · exact absurd h fail_ne_ok
  split at h
  · rename_i options listed
    have size := Json.sizeOf_lt_of_member? listed
    split at h
    · exact absurd h fail_ne_ok
    · rename_i nonempty
      obtain ⟨nodes, hn, h⟩ := bind_eq_ok.mp h
      obtain rfl := pure_eq_ok.mp h
      obtain ⟨hl, ht⟩ := trees_of_alternativesOf hn
      exact .union (ne_nil_of_length_eq hl (by simpa using nonempty)) ht ..
  · exact absurd h fail_ne_ok
  split at h
  · obtain ⟨names, hnames, h⟩ := bind_eq_ok.mp h
    split at h
    · cases h
    · rename_i nonempty
      obtain ⟨nodes, hn, h⟩ := bind_eq_ok.mp h
      obtain rfl := pure_eq_ok.mp h
      obtain ⟨hl, ht⟩ := isTree_of_bareTypes hn
      exact .union (ne_nil_of_length_eq hl (by simpa using nonempty)) ht ..
  · split at h
    · exact isObjectTree_of_objectOf h
    split at h
    · split at h
      · rename_i items present
        have size := Json.sizeOf_lt_of_member? present
        obtain ⟨node, hn, h⟩ := bind_eq_ok.mp h
        obtain rfl := pure_eq_ok.mp h
        exact .array (isTree_of_schemaOf hn) ..
      · obtain ⟨node, hn, h⟩ := bind_eq_ok.mp h
        obtain rfl := pure_eq_ok.mp h
        obtain rfl := pure_eq_ok.mp hn
        exact .array (.boolean true) ..
    split at h
    · rename_i known
      obtain rfl := pure_eq_ok.mp h
      exact .primitive (by simpa using known) ..
    · exact absurd h fail_ne_ok
  · split at h
    · exact isObjectTree_of_objectOf h
    · obtain rfl := pure_eq_ok.mp h
      exact .untyped ..
  · exact absurd h fail_ne_ok
termination_by (sizeOf members, 1)
decreasing_by
  · simp only [Json.arr.sizeOf_spec] at size
    exact Prod.Lex.left _ _ (by omega)
  · simp only [Json.arr.sizeOf_spec] at size
    exact Prod.Lex.left _ _ (by omega)
  · exact Prod.Lex.left _ _ (by omega)
  · exact Prod.Lex.right _ (by omega)
  · exact Prod.Lex.right _ (by omega)

theorem trees_of_alternativesOf {options : List Json} {position : Nat} {path : Path}
    {nodes : List Schema} (h : alternativesOf options position path = .ok nodes) :
    nodes.length = options.length ∧ ∀ s ∈ nodes, IsTree s := by
  match options with
  | [] =>
    rw [alternativesOf.eq_def] at h
    obtain rfl := pure_eq_ok.mp h
    simp
  | option :: rest =>
    rw [alternativesOf.eq_def] at h
    obtain ⟨s, hs, h⟩ := bind_eq_ok.mp h
    obtain ⟨others, ho, h⟩ := bind_eq_ok.mp h
    obtain rfl := pure_eq_ok.mp h
    obtain ⟨hl, ht⟩ := trees_of_alternativesOf ho
    refine ⟨by simp [hl], ?_⟩
    rintro t (_ | ⟨_, hm⟩)
    · exact isTree_of_schemaOf hs
    · exact ht t hm
termination_by (sizeOf options, 0)

theorem isObjectTree_of_objectOf {members : List (String × Json)} {path : Path} {s : Schema}
    (h : objectOf members path = .ok s) : IsObjectTree s := by
  rw [objectOf_eq] at h
  dsimp only at h
  split at h
  · rename_i properties present
    have size := Json.sizeOf_lt_of_member? present
    split at h
    · rename_i values hempty hobj
      have size := Json.sizeOf_lt_of_member? (Json.member?_of_memberOrNull hobj (by simp))
      obtain ⟨node, hn, h⟩ := bind_eq_ok.mp h
      obtain rfl := pure_eq_ok.mp h
      exact .map (isObjectTree_of_schemaOf hn) ..
    · obtain ⟨required, hr, h⟩ := bind_eq_ok.mp h
      obtain ⟨fields, hf, h⟩ := bind_eq_ok.mp h
      obtain ⟨flag, hflag, h⟩ := bind_eq_ok.mp h
      obtain rfl := pure_eq_ok.mp h
      have ht := trees_of_fieldsOf hf
      exact .record (fun f hm => (ht f hm).1) (fun f hm => (ht f hm).2) ..
  · exact absurd h fail_ne_ok
  · split at h
    · rename_i values hobj
      have size := Json.sizeOf_lt_of_member? (Json.member?_of_memberOrNull hobj (by simp))
      obtain ⟨node, hn, h⟩ := bind_eq_ok.mp h
      obtain rfl := pure_eq_ok.mp h
      exact .map (isObjectTree_of_schemaOf hn) ..
    · obtain ⟨required, hr, h⟩ := bind_eq_ok.mp h
      obtain ⟨flag, hflag, h⟩ := bind_eq_ok.mp h
      obtain rfl := pure_eq_ok.mp h
      exact isObjectTree_emptyRecord ..
termination_by (sizeOf members, 0)
decreasing_by
  · simp only [Json.obj.sizeOf_spec] at size
    exact Prod.Lex.left _ _ (by omega)
  · simp only [Json.obj.sizeOf_spec] at size
    exact Prod.Lex.left _ _ (by omega)
  · simp only [Json.obj.sizeOf_spec] at size
    exact Prod.Lex.left _ _ (by omega)

theorem trees_of_fieldsOf {properties : List (String × Json)} {required : List String}
    {path : Path} {fields : List Field} (h : fieldsOf properties required path = .ok fields) :
    ∀ f ∈ fields, IsProperty required f ∧ IsTree f.type := by
  match properties with
  | [] =>
    obtain rfl := Except.ok.inj (fieldsOf_nil.symm.trans h)
    simp
  | (name, value) :: rest =>
    obtain ⟨type, f, others, hs, hf, ho, rfl⟩ := fieldsOf_cons_eq_ok.mp h
    have never (members : List (String × Json)) (hv : value = .obj members) :
        type ≠ booleanNode false := by
      subst hv
      exact (isObjectTree_of_schemaOf hs).ne_never
    obtain ⟨hp, rfl⟩ := isProperty_of_propertyField never hf
    rintro g (_ | ⟨_, hm⟩)
    · exact ⟨hp, isTree_of_schemaOf hs⟩
    · exact trees_of_fieldsOf ho g hm
termination_by (sizeOf properties, 0)
decreasing_by
  · subst hv
    simp only [List.cons.sizeOf_spec, Prod.mk.sizeOf_spec, Json.obj.sizeOf_spec]
    exact Prod.Lex.left _ _ (by omega)
  · simp only [List.cons.sizeOf_spec, Prod.mk.sizeOf_spec]
    exact Prod.Lex.left _ _ (by omega)
  · simp only [List.cons.sizeOf_spec]
    exact Prod.Lex.left _ _ (by omega)

end

end SchemaReview.JsonSchema
