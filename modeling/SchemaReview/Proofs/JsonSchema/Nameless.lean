import SchemaReview.Proofs.JsonSchema.Reading
import SchemaReview.Proofs.Outcome

/-!
# Properties without a name

A property may be called by the empty text, and a field may not. Which properties the reader comes
upon is said here beside it, by the keywords that lead to them; a reading then fails for such a
property, or is refused with an error of parsing, or yields a node.
-/
namespace SchemaReview.JsonSchema

/-- The values inside an object type that are read with it, each with the property it describes, if
any. The values of a map count only where no property is listed. -/
def objectParts (members : List (String × Json)) : List (Option String × Json) :=
  match Json.member? members "properties" with
  | some (.obj (p :: rest)) => (p :: rest).map fun q => (some q.1, q.2)
  | _ =>
    match Json.memberOrNull members "additionalProperties" with
    | .obj values => [(none, .obj values)]
    | _ => []

/-- The alternatives that a keyword lists. -/
def alternativeParts : Json → List (Option String × Json)
  | .arr options => options.map fun o => (none, o)
  | _ => []

/-- The values inside an object that are read with it, by the first of its deciding keywords. -/
def parts (members : List (String × Json)) : List (Option String × Json) :=
  if Json.hasMember members "$ref" || Json.hasMember members "enum" then []
  else
    match Json.member? members "anyOf", Json.member? members "oneOf" with
    | some options, _ => alternativeParts options
    | none, some options => alternativeParts options
    | none, none =>
      match Json.memberOrNull members "type" with
      | .str type =>
        if type = "object" then objectParts members
        else if type = "array" then
          (Json.member? members "items").toList.map fun items => (none, items)
        else []
      | .null => if Json.hasMember members "properties" then objectParts members else []
      | _ => []

/-- Some object that is read with a value has a property called by the empty text. -/
inductive HasNamelessProperty : Json → Prop
  | own {members v} (h : (some "", v) ∈ parts members) : HasNamelessProperty (.obj members)
  | within {members name v} (h : (name, v) ∈ parts members) (found : HasNamelessProperty v) :
    HasNamelessProperty (.obj members)

/-- The failure that a property without a name ends a reading with. -/
def emptyName : Failure := .value (.model .emptyFieldName)

/-- A property without a name is the cause of a failure. -/
def IsNamelessFault (v : Json) (e : Failure) : Prop := HasNamelessProperty v ∧ e = emptyName

/-- A part is the cause of a failure: it describes a property without a name, or holds one. -/
def IsPartFault (part : Option String × Json) (e : Failure) : Prop :=
  (part.1 = some "" ∧ e = emptyName) ∨ IsNamelessFault part.2 e

/-- A failure that is an error of parsing. -/
def IsParseError (e : Failure) : Prop := ∃ error, e = .parse error

theorem isNamelessFault_obj {members : List (String × Json)} {e : Failure} :
    IsNamelessFault (.obj members) e ↔ ∃ part ∈ parts members, IsPartFault part e := by
  constructor
  · rintro ⟨found, rfl⟩
    cases found with
    | own h => exact ⟨_, h, .inl ⟨rfl, rfl⟩⟩
    | within h found => exact ⟨_, h, .inr ⟨found, rfl⟩⟩
  · rintro ⟨⟨name, v⟩, hp, ⟨rfl, rfl⟩ | ⟨found, rfl⟩⟩
    · exact ⟨.own hp, rfl⟩
    · exact ⟨.within hp found, rfl⟩

section

variable {α : Type} {cause : Failure → Prop} {path : Path}

theorem ends_fail (fault : Fault) : Ends IsParseError cause (fail fault path : Result α) :=
  .refuse ⟨_, rfl⟩

theorem isParseError_of_fail {fault : Fault} {e : Failure}
    (h : (fail fault path : Result α) = .error e) : IsParseError e := by
  cases h
  exact ⟨_, rfl⟩

theorem isParseError_of_requiredNames {value : Option Json} {e : Failure}
    (h : requiredNames value path = .error e) : IsParseError e := by
  have walk (items : List Json) {e : Failure} (h : requiredNames.names path items = .error e) :
      IsParseError e := by
    induction items generalizing e with
    | nil => cases h
    | cons item rest ih =>
      cases item with
      | str s =>
        obtain h | ⟨_, _, h⟩ := bind_eq_error.mp h
        · exact ih h
        · cases h
      | _ => exact isParseError_of_fail h
  unfold requiredNames at h
  split at h
  · cases h
  · exact walk _ h
  · exact isParseError_of_fail h

theorem isParseError_of_additionalFlag {value : Json} {e : Failure}
    (h : additionalFlag value path = .error e) : IsParseError e := by
  cases value with
  | null | bool | obj => cases h
  | _ => exact isParseError_of_fail h

theorem isParseError_of_typeNames {entries : List Json} {position : Nat} {e : Failure}
    (h : typeNames entries position path = .error e) : IsParseError e := by
  induction entries generalizing position with
  | nil => cases h
  | cons entry rest ih =>
    cases entry with
    | str t =>
      obtain h | ⟨_, _, h⟩ := bind_eq_error.mp h
      · exact ih h
      · cases h
    | _ => exact isParseError_of_fail h

theorem isParseError_of_bareTypes {names : List String} {position : Nat} {e : Failure}
    (h : bareTypes names position path = .error e) : IsParseError e := by
  induction names generalizing position with
  | nil => cases h
  | cons name rest ih =>
    obtain h | ⟨_, _, h⟩ := bind_eq_error.mp h
    · unfold bareType at h
      split at h
      · cases h
      split at h
      · cases h
      split at h
      · cases h
      · exact isParseError_of_fail h
    · obtain h | ⟨_, _, h⟩ := bind_eq_error.mp h
      · exact ih h
      · cases h

theorem ends_propertyField (name : String) (value : Json) (type : Schema)
    (required : List String) :
    Ends IsParseError (fun e => name = "" ∧ e = emptyName)
      (propertyField name value type required) := by
  unfold propertyField
  split
  · rename_i nameless
    exact .fault ⟨nameless, rfl⟩
  · rename_i named
    exact .ok _ fun e h => named h.1

/-- A union has the causes of its alternatives. -/
theorem ends_alternatives {options : List Json} {keyword : String} {name doc : Json}
    (h : Ends IsParseError (fun e => ∃ o ∈ options, IsNamelessFault o e)
      (alternativesOf options 0 path)) :
    Ends IsParseError (fun e => ∃ part ∈ alternativeParts (.arr options), IsPartFault part e)
      (if options.isEmpty then fail (.emptyAlternatives keyword) path
      else do
        return ({ kind := .union, name := name, documentation := doc,
                  members := ← alternativesOf options 0 path } : Schema) : Result Schema) := by
  split
  · exact ends_fail _
  · refine (h.then_ok fun _ => rfl).congr fun e => ?_
    simp [alternativeParts, IsPartFault]

/-- A record has the causes of its fields. -/
theorem ends_record {properties : List (String × Json)} {name doc additional : Json}
    (members : List (String × Json))
    (h : ∀ required, Ends IsParseError cause (fieldsOf properties required path)) :
    Ends IsParseError cause (do
      let required ← requiredNames (Json.member? members "required") path
      let fields ← fieldsOf properties required path
      let flag ← additionalFlag additional path
      return ({ kind := .record, name := name, documentation := doc, fields := fields,
                additionalProperties := flag } : Schema) : Result Schema) := by
  refine .after (fun e => isParseError_of_requiredNames) fun required _ => ?_
  refine (h required).followed fun fields e failed => ?_
  obtain failed | ⟨flag, -, failed⟩ := bind_eq_error.mp failed
  · exact isParseError_of_additionalFlag failed
  · cases failed

/-- A list of type names holds no property. -/
theorem ends_typeList (entries : List Json) (name doc : Json) :
    Ends IsParseError (fun _ => False) (do
      let names ← typeNames entries 0 path
      if names.isEmpty then fail .emptyTypeList path
      return ({ kind := .union, name := name, documentation := doc,
                members := ← bareTypes names 0 path } : Schema) : Result Schema) := by
  refine .after (fun e => isParseError_of_typeNames) fun names _ => ?_
  split
  · exact ends_fail _
  · exact .after (fun e => isParseError_of_bareTypes) fun nodes _ => .ok _ (by simp)

end

mutual

theorem ends_schemaOf (v : Json) (path : Path) :
    Ends IsParseError (IsNamelessFault v) (schemaOf v path) := by
  match v with
  | .bool accepts =>
    rw [schemaOf_bool]
    exact .ok _ fun e h => nomatch h.1
  | .obj members => exact (ends_object members path).congr fun e => isNamelessFault_obj.symm
  | .null | .int _ | .float _ | .str _ | .arr _ =>
    rw [schemaOf.eq_def]
    exact ends_fail _
termination_by (sizeOf v, 0)
decreasing_by
  simp only [Json.obj.sizeOf_spec]
  exact Prod.Lex.left _ _ (by omega)

theorem ends_object (members : List (String × Json)) (path : Path) :
    Ends IsParseError (fun e => ∃ part ∈ parts members, IsPartFault part e)
      (schemaOf (.obj members) path) := by
  rw [schemaOf_obj]
  unfold parts
  dsimp only
  cases reference : Json.member? members "$ref" with
  | some target => exact .ok _ (by simp [Json.hasMember, reference])
  | none =>
  cases listed : Json.member? members "enum" with
  | some values =>
    cases values with
    | arr items => exact .ok _ (by simp [Json.hasMember, listed])
    | _ => exact ends_fail _
  | none =>
  simp only [Json.hasMember, reference, listed, Option.isSome_none, Bool.or_self,
    Bool.false_eq_true, if_false]
  cases any : Json.member? members "anyOf" with
  | some value =>
    cases value with
    | arr options =>
      have size := Json.sizeOf_lt_of_member? any
      exact ends_alternatives (ends_alternativesOf options 0 path)
    | _ => exact ends_fail _
  | none =>
  cases one : Json.member? members "oneOf" with
  | some value =>
    cases value with
    | arr options =>
      have size := Json.sizeOf_lt_of_member? one
      exact ends_alternatives (ends_alternativesOf options 0 path)
    | _ => exact ends_fail _
  | none =>
  dsimp only
  cases Json.memberOrNull members "type" with
  | arr entries => exact (ends_typeList entries _ _).congr (by simp)
  | str type =>
    dsimp only
    split
    · exact ends_objectOf members path
    split
    · cases held : Json.member? members "items" with
      | some items =>
        have size := Json.sizeOf_lt_of_member? held
        refine ((ends_schemaOf items path).then_ok fun _ => rfl).congr fun e => ?_
        simp [IsPartFault]
      | none => exact .ok _ (by simp)
    split
    · exact .ok _ (by simp)
    · exact ends_fail _
  | null =>
    by_cases listed : (Json.member? members "properties").isSome = true
    · simp only [listed, if_true]
      exact ends_objectOf members path
    · simp only [listed, if_false, Bool.false_eq_true]
      exact .ok _ (by simp)
  | _ => exact ends_fail _
termination_by (sizeOf members, 1)
decreasing_by
  · exact Prod.Lex.right _ (by omega)
  · exact Prod.Lex.left _ _ (by omega)
  · exact Prod.Lex.right _ (by omega)
  · simp only [Json.arr.sizeOf_spec] at size
    exact Prod.Lex.left _ _ (by omega)
  · simp only [Json.arr.sizeOf_spec] at size
    exact Prod.Lex.left _ _ (by omega)

theorem ends_alternativesOf (options : List Json) (position : Nat) (path : Path) :
    Ends IsParseError (fun e => ∃ o ∈ options, IsNamelessFault o e)
      (alternativesOf options position path) := by
  match options with
  | [] =>
    rw [alternativesOf.eq_def]
    exact .ok _ (by simp)
  | option :: rest =>
    rw [alternativesOf.eq_def]
    have walk := (ends_schemaOf option (path ++ [.index position])).bind fun s _ =>
      (ends_alternativesOf rest (position + 1) path).then_ok (g := (s :: ·)) fun _ => rfl
    exact walk.congr fun e => by simp
termination_by (sizeOf options, 0)

theorem ends_objectOf (members : List (String × Json)) (path : Path) :
    Ends IsParseError (fun e => ∃ part ∈ objectParts members, IsPartFault part e)
      (objectOf members path) := by
  rw [objectOf_eq]
  unfold objectParts
  dsimp only
  cases listed : Json.member? members "properties" with
  | some value =>
    cases value with
    | obj properties =>
      have size := Json.sizeOf_lt_of_member? listed
      have fields (required : List String) := ends_fieldsOf properties required path
      cases properties with
      | nil =>
        cases given : Json.memberOrNull members "additionalProperties" with
        | obj values =>
          have inner := Json.sizeOf_lt_of_member? (Json.member?_of_memberOrNull given (by simp))
          refine ((ends_schemaOf (.obj values) path).then_ok fun _ => rfl).congr fun e => ?_
          simp [IsPartFault]
        | _ =>
          refine (ends_record members fields).congr fun e => ?_
          simp
      | cons p rest =>
        refine (ends_record members fields).congr fun e => ?_
        simp
    | _ => exact ends_fail _
  | none =>
    cases given : Json.memberOrNull members "additionalProperties" with
    | obj values =>
      have inner := Json.sizeOf_lt_of_member? (Json.member?_of_memberOrNull given (by simp))
      refine ((ends_schemaOf (.obj values) path).then_ok fun _ => rfl).congr fun e => ?_
      simp [IsPartFault]
    | _ =>
      refine .after (fun e => isParseError_of_requiredNames) fun required _ => ?_
      exact .after (fun e => isParseError_of_additionalFlag) fun flag _ => .ok _ (by simp)
termination_by (sizeOf members, 0)
decreasing_by
  · exact Prod.Lex.left _ _ (by omega)
  · simp only [Json.obj.sizeOf_spec] at size
    exact Prod.Lex.left _ _ (by omega)
  · exact Prod.Lex.left _ _ (by omega)

theorem ends_fieldsOf (properties : List (String × Json)) (required : List String) (path : Path) :
    Ends IsParseError (fun e => ∃ p ∈ properties, IsPartFault (some p.1, p.2) e)
      (fieldsOf properties required path) := by
  match properties with
  | [] =>
    rw [fieldsOf.eq_def]
    exact .ok _ (by simp)
  | (name, value) :: rest =>
    rw [fieldsOf.eq_def]
    have walk := (ends_schemaOf value (path ++ [.name name])).bind fun type _ =>
      (ends_propertyField name value type required).bind fun f _ =>
        (ends_fieldsOf rest required path).then_ok (g := (f :: ·)) fun _ => rfl
    refine walk.congr fun e => ?_
    simp only [IsPartFault, List.exists_mem_cons_iff, Option.some.injEq]
    rw [or_assoc]
    exact or_left_comm
termination_by (sizeOf properties, 0)
decreasing_by
  · simp only [List.cons.sizeOf_spec, Prod.mk.sizeOf_spec]
    exact Prod.Lex.left _ _ (by omega)
  · simp only [List.cons.sizeOf_spec]
    exact Prod.Lex.left _ _ (by omega)

end

theorem ends_ofJson (v : Json) : Ends IsParseError (IsNamelessFault v) (ofJson v) := by
  cases v with
  | obj members =>
    refine .after (fun e declared => ?_) fun uri _ => (ends_schemaOf (.obj members) []).then_ok
      fun _ => rfl
    unfold declaredUri at declared
    split at declared
    · cases declared
    · cases declared
    · exact isParseError_of_fail declared
  | _ => exact ends_fail _

end SchemaReview.JsonSchema
