import SchemaReview.Proofs.Avro.Reading
import SchemaReview.Proofs.Schema.Agreement
import SchemaReview.Proofs.Schema.Shape
import SchemaReview.Proofs.Outcome

/-!
# The order of members in Avro schemas

A schema may list the members of its objects in any order. The reader looks members up by their
keys, so two values that differ in the order of members are refused with one error, or are read as
trees that are equal and have one fingerprint. What the trees keep of the values as it stands, such
as documentation and defaults, differs in the order of members again.
-/
namespace SchemaReview

namespace Json

/-- Whether no object of a value names a member twice, and another value lists the same members in
any order. -/
structure Reorders (v w : Json) : Prop where
  distinct : v.hasDistinctKeys = true
  agree : Agree Eq v w

theorem nodup_of_membersAgree {xs ys zs : List (String × Json)} (distinct : (xs.map Prod.fst).Nodup)
    (members : List.Forall₂ (MembersAgree Eq) xs zs) (order : zs.Perm ys) :
    (ys.map Prod.fst).Nodup := by
  have keys : xs.map Prod.fst = zs.map Prod.fst := by
    rw [← List.forall₂_eq_eq_eq, List.forall₂_map_left_iff, List.forall₂_map_right_iff]
    refine members.imp fun entry other agree => ?_
    cases agree
    rfl
  rw [keys] at distinct
  exact (order.map _).nodup_iff.mp distinct

theorem hasDistinctKeys_of_agree {v w : Json} (distinct : v.hasDistinctKeys = true)
    (h : Agree Eq v w) : w.hasDistinctKeys = true := by
  match h with
  | .null | .bool _ | .int _ | .str _ | .float _ => rfl
  | @Agree.arr _ xs ys items =>
    rw [hasDistinctKeys_arr] at distinct ⊢
    intro y hy
    obtain ⟨x, hx, agree⟩ := exists_of_forall₂ items.flip hy
    have : sizeOf x < sizeOf xs := List.sizeOf_lt_of_mem hx
    exact hasDistinctKeys_of_agree (distinct x hx) agree
  | @Agree.obj _ xs ys zs members order =>
    rw [hasDistinctKeys_obj] at distinct ⊢
    refine ⟨nodup_of_membersAgree distinct.1 members order, fun entry listed => ?_⟩
    obtain ⟨⟨key, value⟩, hx, agree⟩ := exists_of_forall₂ members.flip (order.mem_iff.mpr listed)
    have : sizeOf value < sizeOf xs := sizeOf_snd_lt_of_mem hx
    cases agree with
    | mk values => exact hasDistinctKeys_of_agree (distinct.2 _ hx) values
termination_by sizeOf v

namespace Reorders

variable {v w : Json} {xs ys : List (String × Json)} {vs ws : List Json}

theorem items (h : (arr vs).Reorders (arr ws)) : List.Forall₂ Reorders vs ws := by
  have distinct := hasDistinctKeys_arr.mp h.distinct
  cases h.agree with
  | arr agree => exact forall₂_of_mem agree fun x hx y _ same => ⟨distinct x hx, same⟩

/-- Under each key stand values that reorder each other, or none. -/
theorem member? (h : (obj xs).Reorders (obj ys)) (key : String) :
    Option.Rel Reorders (member? xs key) (member? ys key) := by
  obtain ⟨distinct, agree⟩ := h
  cases agree with
  | @obj _ _ zs members order =>
    rw [hasDistinctKeys_obj] at distinct
    have keys : (zs.map Prod.fst).Nodup :=
      nodup_of_membersAgree distinct.1 members (List.Perm.refl zs)
    rw [← member?_perm keys order]
    replace distinct := distinct.2
    clear keys order
    induction members with
    | nil => exact .none
    | @cons entry other xs zs first _ ih =>
      rw [List.forall_mem_cons] at distinct
      obtain ⟨value⟩ := first
      rw [member?_cons, member?_cons]
      split
      · exact .some ⟨distinct.1, value⟩
      · exact ih distinct.2

/-- Both objects have a member under a key, or neither has. -/
theorem member?_cases (h : (obj xs).Reorders (obj ys)) (key : String) :
    (Json.member? xs key = none ∧ Json.member? ys key = none) ∨
      ∃ v w, Json.member? xs key = some v ∧ Json.member? ys key = some w ∧ v.Reorders w := by
  have found := h.member? key
  generalize Json.member? xs key = a at found
  generalize Json.member? ys key = b at found
  cases found with
  | none => exact .inl ⟨rfl, rfl⟩
  | some values => exact .inr ⟨_, _, rfl, rfl, values⟩

theorem null : Reorders null null := ⟨rfl, .null⟩

theorem str (s : String) : Reorders (.str s) (.str s) := ⟨rfl, .str s⟩

theorem memberOrNull (h : (obj xs).Reorders (obj ys)) (key : String) :
    (memberOrNull xs key).Reorders (memberOrNull ys key) := by
  unfold Json.memberOrNull
  obtain ⟨hx, hy⟩ | ⟨v, w, hx, hy, values⟩ := h.member?_cases key
  · rw [hx, hy]
    exact null
  · rw [hx, hy]
    exact values

theorem hasMember (h : (obj xs).Reorders (obj ys)) (key : String) :
    hasMember xs key = hasMember ys key := by
  unfold Json.hasMember
  obtain ⟨hx, hy⟩ | ⟨v, w, hx, hy, -⟩ := h.member?_cases key
  · rw [hx, hy]
  · rw [hx, hy]
    rfl

/-- Values that differ in the order of members are equal. -/
theorem same (h : v.Reorders w) : v.same w = true :=
  same_of_sorted_eq h.distinct (hasDistinctKeys_of_agree h.distinct h.agree)
    (sorted_eq_of_agree h.distinct h.agree)

end Reorders
end Json

/-- Whether a field was read from values whose objects list their members in another order. -/
structure FieldOf.Reorders (f g : Field) : Prop where
  held : f.HoldsValues
  agree : f.Agree Eq g

namespace Schema

/-- Whether two trees differ only in the order of the members of values that they keep. -/
structure Reorders (s t : Schema) : Prop where
  held : s.HoldsValues
  agree : s.Agree Eq t

/-- Nodes whose attributes and parts reorder each other. -/
theorem Reorders.of_parts {s t : Schema} (name : s.name.Reorders t.name)
    (documentation : s.documentation.Reorders t.documentation)
    (logicalType : s.logicalType.Reorders t.logicalType)
    (fields : List.Forall₂ FieldOf.Reorders s.fields t.fields)
    (items : Option.Rel Reorders s.items t.items) (values : Option.Rel Reorders s.values t.values)
    (members : List.Forall₂ Reorders s.members t.members)
    (rest : t = { s with
      name := t.name, documentation := t.documentation, logicalType := t.logicalType,
      fields := t.fields, items := t.items, values := t.values, members := t.members }) :
    s.Reorders t := by
  have held : ∀ {α : Type} {P : α → Prop} {R : α → α → Prop} {a b : Option α},
      (∀ x y, R x y → P x) → Option.Rel R a b → ∀ x ∈ a, P x := by
    intro α P R a b each related x hx
    cases related with
    | none => cases hx
    | some first =>
      cases hx
      exact each _ _ first
  refine ⟨.mk name.distinct documentation.distinct logicalType.distinct ?fields ?items ?values
    ?members, .mk name.agree documentation.agree logicalType.agree (fields.imp fun _ _ h => h.agree)
    ?itemsAgree ?valuesAgree (members.imp fun _ _ h => h.agree) rest⟩
  case fields =>
    intro f hf
    obtain ⟨g, -, h⟩ := exists_of_forall₂ fields hf
    exact h.held
  case items => exact held (fun _ _ h => h.held) items
  case values => exact held (fun _ _ h => h.held) values
  case members =>
    intro m hm
    obtain ⟨n, -, h⟩ := exists_of_forall₂ members hm
    exact h.held
  case itemsAgree => exact rel_of_mem items fun _ _ _ _ h => h.agree
  case valuesAgree => exact rel_of_mem values fun _ _ _ _ h => h.agree

theorem Reorders.fingerprint {s t : Schema} (h : s.Reorders t) : s.fingerprint = t.fingerprint := by
  unfold Schema.fingerprint
  rw [(isAlike_of_agree h.held h.agree).payloadText]

theorem Reorders.same {s t : Schema} (h : s.Reorders t) : s.same t = true := by
  obtain ⟨⟨vName, vDocumentation, vLogicalType, vFields, vItems, vValues, vMembers⟩,
    ⟨name, documentation, logicalType, fields, items, values, members, rest⟩⟩ := h
  rw [same_iff]
  have ofFields : List.Forall₂ FieldOf.AreEqual s.fields t.fields := by
    refine forall₂_of_mem fields fun f hf g _ agree => ?_
    have := sizeOf_lt_of_isPart (.inl ⟨f, hf, rfl⟩)
    obtain ⟨vType, vDocumentation, vDefault⟩ := vFields f hf
    obtain ⟨type, documentation, default, rest⟩ := agree
    exact {
      name := (congrArg FieldOf.name rest).symm
      type := Reorders.same ⟨vType, type⟩
      documentation := Json.Reorders.same ⟨vDocumentation, documentation⟩
      hasDefault := (congrArg FieldOf.hasDefault rest).symm
      default := Json.Reorders.same ⟨vDefault, default⟩
      tag := (congrArg FieldOf.tag rest).symm
      label := (congrArg FieldOf.label rest).symm }
  have ofItems : Option.Rel (fun a b => a.same b = true) s.items t.items := by
    refine rel_of_mem items fun i hi j _ agree => ?_
    have := sizeOf_lt_of_isPart (.inr (.inl hi))
    exact Reorders.same ⟨vItems i hi, agree⟩
  have ofValues : Option.Rel (fun a b => a.same b = true) s.values t.values := by
    refine rel_of_mem values fun v hv w _ agree => ?_
    have := sizeOf_lt_of_isPart (.inr (.inr (.inl hv)))
    exact Reorders.same ⟨vValues v hv, agree⟩
  have ofMembers : List.Forall₂ (fun a b => a.same b = true) s.members t.members := by
    refine forall₂_of_mem members fun m hm n _ agree => ?_
    have := sizeOf_lt_of_isPart (.inr (.inr (.inr hm)))
    exact Reorders.same ⟨vMembers m hm, agree⟩
  exact {
    kind := (congrArg Schema.kind rest).symm
    name := Json.Reorders.same ⟨vName, name⟩
    qualifier := (congrArg Schema.qualifier rest).symm
    documentation := Json.Reorders.same ⟨vDocumentation, documentation⟩
    fields := ofFields
    typeName := (congrArg Schema.typeName rest).symm
    logicalType := Json.Reorders.same ⟨vLogicalType, logicalType⟩
    size := (congrArg Schema.size rest).symm
    symbols := (congrArg Schema.symbols rest).symm
    symbolValues := (congrArg Schema.symbolValues rest).symm
    items := ofItems
    values := ofValues
    members := ofMembers
    additionalProperties := (congrArg Schema.additionalProperties rest).symm }
termination_by sizeOf s

end Schema

namespace Avro

variable {xs ys : List (String × Json)} {vs ws : List Json} {path : Path} {q : Option String}

theorem strings?_reorders (h : List.Forall₂ Json.Reorders vs ws) : strings? vs = strings? ws := by
  induction h with
  | nil => rfl
  | @cons v w vs ws first _ ih =>
    cases first.agree with
    | str s => rw [strings?, strings?, ih]
    | _ => rfl

theorem declaredName_reorders (h : (Json.obj xs).Reorders (.obj ys)) (label : String) :
    declaredName xs path q label = declaredName ys path q label := by
  have name := (h.memberOrNull "name").agree
  have space := (h.memberOrNull "namespace").agree
  unfold declaredName
  generalize Json.memberOrNull xs "name" = v at name
  generalize Json.memberOrNull ys "name" = w at name
  generalize Json.memberOrNull xs "namespace" = v' at space
  generalize Json.memberOrNull ys "namespace" = w' at space
  cases name with
  | str s => cases space <;> rfl
  | _ => rfl

/-- A node without parts, from attributes that reorder each other. -/
theorem reorders_leaf {s t : Schema} (documentation : s.documentation.Reorders t.documentation)
    (logicalType : s.logicalType.Reorders t.logicalType) (name : s.name.Reorders s.name)
    (bare : s.fields = [] ∧ s.items = none ∧ s.values = none ∧ s.members = [])
    (rest : t = { s with documentation := t.documentation, logicalType := t.logicalType }) :
    s.Reorders t := by
  obtain ⟨fields, items, values, members⟩ := bare
  generalize t.documentation = documentation', t.logicalType = logicalType' at *
  subst rest
  refine .of_parts name documentation logicalType ?_ ?_ ?_ ?_ rfl
  · rw [fields]
    exact .nil
  · rw [items]
    exact .none
  · rw [values]
    exact .none
  · rw [members]
    exact .nil

theorem enumOf_reorders (h : (Json.obj xs).Reorders (.obj ys)) :
    RunAlike Schema.Reorders (enumOf xs path q) (enumOf ys path q) := by
  have documentation := h.memberOrNull "doc"
  have listed := h.memberOrNull "symbols"
  unfold enumOf
  rw [declaredName_reorders h]
  refine (RunAlike.refl _).bind fun declared _ same => ?_
  subst same
  dsimp only
  generalize Json.memberOrNull xs "symbols" = v at listed
  generalize Json.memberOrNull ys "symbols" = w at listed
  have alike := listed.agree
  cases alike with
  | arr _ =>
    dsimp only
    rw [strings?_reorders listed.items]
    cases strings? _ with
    | none => exact .throw _
    | some symbols =>
      dsimp only
      split
      · exact .throw _
      · refine (RunAlike.refl _).bind fun _ _ _ => .pure ?_
        exact reorders_leaf documentation .null (.str _) ⟨rfl, rfl, rfl, rfl⟩ rfl
  | _ => exact .throw _

theorem fixedOf_reorders (h : (Json.obj xs).Reorders (.obj ys)) :
    RunAlike Schema.Reorders (fixedOf xs path q) (fixedOf ys path q) := by
  have documentation := h.memberOrNull "doc"
  have logicalType := h.memberOrNull "logicalType"
  have sized := (h.memberOrNull "size").agree
  unfold fixedOf
  rw [declaredName_reorders h]
  refine (RunAlike.refl _).bind fun declared _ same => ?_
  subst same
  dsimp only
  generalize Json.memberOrNull xs "size" = v at sized
  generalize Json.memberOrNull ys "size" = w at sized
  cases sized with
  | int size =>
    refine (RunAlike.refl _).bind fun _ _ _ => .pure ?_
    exact reorders_leaf documentation logicalType (.str _) ⟨rfl, rfl, rfl, rfl⟩ rfl
  | _ => exact .throw _

theorem typeNamed_reorders (name : String) :
    RunAlike Schema.Reorders (typeNamed name q) (typeNamed name q) := by
  intro D
  rw [typeNamed_eq]
  refine .ok ⟨?_, rfl⟩
  unfold namedType
  split <;> exact reorders_leaf .null .null .null ⟨rfl, rfl, rfl, rfl⟩ rfl

mutual

theorem schemaOf_reorders {v w : Json} (h : v.Reorders w) (path : Path) (q : Option String) :
    RunAlike Schema.Reorders (schemaOf v path q) (schemaOf w path q) := by
  have alike := h.agree
  match v with
  | .str name =>
    cases alike
    rw [schemaOf_str]
    exact typeNamed_reorders name
  | .arr vs =>
    cases alike with
    | @arr _ ws agree =>
      have empty : vs.isEmpty = ws.isEmpty := by cases agree <;> rfl
      rw [schemaOf_arr, schemaOf_arr, empty]
      split
      · exact .throw _
      · refine (membersOf_reorders h.items 0 path q).bind fun members members' each => .pure ?_
        exact .of_parts .null .null .null .nil .none .none each rfl
  | .obj xs =>
    cases alike with
    | @obj _ ys _ _ _ =>
      have documentation := h.memberOrNull "doc"
      have logicalType := h.memberOrNull "logicalType"
      rw [schemaOf_obj, schemaOf_obj]
      obtain ⟨hx, hy⟩ | ⟨v, w, hx, hy, inner⟩ := h.member?_cases "type"
      · rw [hx, hy]
        exact .throw _
      · rw [hx, hy]
        have := Json.sizeOf_lt_of_member? hx
        match v, inner.agree with
        | .obj _, .obj _ _ => exact schemaOf_reorders inner path q
        | .arr _, .arr _ => exact schemaOf_reorders inner path q
        | .null, .null | .bool _, .bool _ | .int _, .int _ | .float _, .float _ => exact .throw _
        | .str word, .str _ =>
          dsimp only
          split
          · exact recordOf_reorders h path q
          split
          · exact enumOf_reorders h
          split
          · obtain ⟨hx, hy⟩ | ⟨v, w, hx, hy, items⟩ := h.member?_cases "items"
            · rw [hx, hy]
              exact .throw _
            · rw [hx, hy]
              have := Json.sizeOf_lt_of_member? hx
              refine (schemaOf_reorders items path q).bind fun s t same => .pure ?_
              exact .of_parts .null documentation .null .nil (.some same) .none .nil rfl
          split
          · obtain ⟨hx, hy⟩ | ⟨v, w, hx, hy, values⟩ := h.member?_cases "values"
            · rw [hx, hy]
              exact .throw _
            · rw [hx, hy]
              have := Json.sizeOf_lt_of_member? hx
              refine (schemaOf_reorders values path q).bind fun s t same => .pure ?_
              exact .of_parts .null documentation .null .nil .none (.some same) .nil rfl
          split
          · exact fixedOf_reorders h
          split
          · exact .pure (reorders_leaf documentation logicalType .null ⟨rfl, rfl, rfl, rfl⟩ rfl)
          · exact typeNamed_reorders word
  | .float x =>
    cases alike with
    | float same =>
      rw [same, schemaOf.eq_def]
      exact .throw _
  | .null | .bool _ | .int _ =>
    cases alike
    rw [schemaOf.eq_def]
    exact .throw _
termination_by sizeOf v
decreasing_by
  all_goals
    simp only [Json.obj.sizeOf_spec, Json.arr.sizeOf_spec] at *
    omega

theorem membersOf_reorders {vs ws : List Json} (h : List.Forall₂ Json.Reorders vs ws)
    (position : Nat) (path : Path) (q : Option String) :
    RunAlike (List.Forall₂ Schema.Reorders) (membersOf vs position path q)
      (membersOf ws position path q) := by
  match vs with
  | [] =>
    cases h
    rw [membersOf.eq_def]
    exact .pure .nil
  | v :: vs =>
    cases h with
    | cons first others =>
      rw [membersOf_cons, membersOf_cons]
      refine (schemaOf_reorders first _ q).bind fun s t same => ?_
      refine (membersOf_reorders others _ path q).bind fun members members' each => .pure ?_
      exact .cons same each
termination_by sizeOf vs

theorem recordOf_reorders {xs ys : List (String × Json)} (h : (Json.obj xs).Reorders (.obj ys))
    (path : Path) (q : Option String) :
    RunAlike Schema.Reorders (recordOf xs path q) (recordOf ys path q) := by
  have documentation := h.memberOrNull "doc"
  rw [recordOf_eq, recordOf_eq, declaredName_reorders h]
  refine (RunAlike.refl _).bind fun declared _ same => ?_
  subst same
  obtain ⟨name, own⟩ := declared
  dsimp only
  obtain ⟨hx, hy⟩ | ⟨v, w, hx, hy, inner⟩ := h.member?_cases "fields"
  · rw [hx, hy]
    exact .throw _
  · rw [hx, hy]
    have := Json.sizeOf_lt_of_member? hx
    match v, inner.agree with
    | .arr vs, .arr _ =>
      refine (RunAlike.refl _).bind fun _ _ _ => ?_
      refine (fieldsOf_reorders inner.items 0 name path own []).bind fun fs gs each => .pure ?_
      exact .of_parts (.str name) documentation .null each .none .none .nil rfl
    | .null, .null | .bool _, .bool _ | .int _, .int _ | .float _, .float _ | .str _, .str _
    | .obj _, .obj _ _ => exact .throw _
termination_by sizeOf xs
decreasing_by
  simp only [Json.arr.sizeOf_spec] at this
  omega

theorem fieldsOf_reorders {vs ws : List Json} (h : List.Forall₂ Json.Reorders vs ws)
    (position : Nat) (record : String) (path : Path) (q : Option String) (seen : List String) :
    RunAlike (List.Forall₂ FieldOf.Reorders) (fieldsOf vs position record path q seen)
      (fieldsOf ws position record path q seen) := by
  match vs with
  | [] =>
    cases h
    rw [fieldsOf.eq_def]
    exact .pure .nil
  | .obj xs :: vs =>
    cases h with
    | cons first others =>
      have agree := first.agree
      cases agree with
      | @obj _ ys _ _ _ =>
        have documentation := first.memberOrNull "doc"
        have default := first.memberOrNull "default"
        have named := (first.memberOrNull "name").agree
        rw [fieldsOf_cons, fieldsOf_cons, first.hasMember]
        generalize Json.memberOrNull xs "name" = n at named
        generalize Json.memberOrNull ys "name" = n' at named
        cases named with
        | str name =>
          dsimp only
          split
          · exact .throw _
          · obtain ⟨hx, hy⟩ | ⟨v, w, hx, hy, type⟩ := first.member?_cases "type"
            · rw [hx, hy]
              exact .throw _
            · rw [hx, hy]
              have := Json.sizeOf_lt_of_member? hx
              dsimp only
              split
              · exact .throw _
              · refine (schemaOf_reorders type _ q).bind fun s t same => ?_
                refine (fieldsOf_reorders others _ record path q _).bind fun fs gs each => .pure ?_
                refine .cons ⟨.mk same.held documentation.distinct default.distinct, ?_⟩ each
                exact .mk same.agree documentation.agree default.agree rfl
        | _ => exact .throw _
  | .null :: _ | .bool _ :: _ | .int _ :: _ | .float _ :: _ | .str _ :: _ | .arr _ :: _ =>
    cases h with
    | cons first others =>
      cases first.agree
      rw [fieldsOf.eq_def, fieldsOf.eq_def]
      exact .throw _
termination_by sizeOf vs
decreasing_by
  all_goals
    simp only [List.cons.sizeOf_spec, Json.obj.sizeOf_spec] at *
    omega

end

/-- Two values that differ in the order of members are refused for one reason at one path, or read
as trees that are equal and have one fingerprint. -/
theorem ofJson_reordered {v w : Json} (distinct : v.hasDistinctKeys = true)
    (reordered : Json.Agree Eq v w) :
    (∃ e, ofJson v = .error e ∧ ofJson w = .error e) ∨
      ∃ s t, ofJson v = .ok s ∧ ofJson w = .ok t ∧ s.same t = true ∧
        s.fingerprint = t.fingerprint := by
  have run := schemaOf_reorders ⟨distinct, reordered⟩ [] none []
  unfold ofJson StateT.run'
  obtain ⟨e, _, hv, hw, rfl⟩ | ⟨⟨s, D⟩, ⟨t, D'⟩, hv, hw, same, -⟩ := run.cases
  · rw [hv, hw]
    exact .inl ⟨e, rfl, rfl⟩
  · rw [hv, hw]
    exact .inr ⟨s, t, rfl, rfl, same.same, same.fingerprint⟩

/-- The default of a field, an object with two members. -/
def originMembers : List (String × Json) := [("x", .int 0), ("y", .float .nan)]

def placeField (default : Json) : List (String × Json) :=
  [("name", .str "at"), ("type", .str "Point"), ("default", default)]

def placeMembers (field : Json) : List (String × Json) :=
  [("type", .str "record"), ("name", .str "Place"), ("fields", .arr [field])]

/-- A record with a default. -/
def placeJson : Json := .obj (placeMembers (.obj (placeField (.obj originMembers))))

/-- The same record, every object listed the other way round. -/
def turnedPlaceJson : Json :=
  .obj (placeMembers (.obj (placeField (.obj originMembers.reverse)).reverse)).reverse

theorem agree_placeJson : Json.Agree Eq placeJson turnedPlaceJson := by
  have back (members : List (String × Json)) : members.Perm members.reverse :=
    (List.reverse_perm members).symm
  have origin : Json.Agree Eq (.obj originMembers) (.obj originMembers.reverse) :=
    .obj (.cons (.mk (.int 0)) (.cons (.mk (.float rfl)) .nil)) (back _)
  have field : Json.Agree Eq (.obj (placeField (.obj originMembers)))
      (.obj (placeField (.obj originMembers.reverse)).reverse) :=
    .obj (.cons (.mk (.str "at")) (.cons (.mk (.str "Point")) (.cons (.mk origin) .nil))) (back _)
  exact .obj (.cons (.mk (.str "record")) (.cons (.mk (.str "Place"))
    (.cons (.mk (.arr (.cons field .nil))) .nil))) (back _)

theorem ofJson_reordered_place :
    placeJson.hasDistinctKeys = true ∧ Json.Agree Eq placeJson turnedPlaceJson ∧
      ∃ s t, ofJson placeJson = .ok s ∧ ofJson turnedPlaceJson = .ok t ∧ s.same t = true ∧
        s.fingerprint = t.fingerprint := by
  have distinct : placeJson.hasDistinctKeys = true := by decide
  have read : ∃ s, ofJson placeJson = .ok s := ⟨_, by cbv⟩
  refine ⟨distinct, agree_placeJson, ?_⟩
  obtain ⟨e, refused, -⟩ | alike := ofJson_reordered distinct agree_placeJson
  · obtain ⟨s, read⟩ := read
    rw [read] at refused
    cases refused
  · exact alike

end Avro
end SchemaReview
