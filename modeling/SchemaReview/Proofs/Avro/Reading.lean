import SchemaReview.Avro.Reader
import SchemaReview.Proofs.Avro.Naming
import SchemaReview.Proofs.Outcome

/-!
# The readings of an Avro schema

A relation that lists what one step of the reader can do: which values it accepts inside a
namespace, after which definitions, and which node and which definitions it leaves. Paths only
serve error texts and do not occur. The reader returns a node exactly when the relation holds, so
statements about accepted schemas are proved by induction on a reading.
-/
namespace SchemaReview.Avro

/-- The name of the type that a written name refers to. -/
def referenceName (name : String) (space : Option String) (defined : Definitions) : String :=
  let full := qualify (splitName name space).1 (splitName name space).2
  if !defined.contains (some full) && defined.contains (some name) then name else full

/-- The entry that a definition makes; a type whose own name is empty has no full name. -/
def fullName (name : String) (space : Option String) : Option String :=
  if name = "" then none else some (qualify name space)

/-- What a written type name is read as. -/
def namedType (name : String) (space : Option String) (defined : Definitions) : Schema :=
  if name ∈ primitives then { kind := .primitive, typeName := some name }
  else { kind := .reference, typeName := some (referenceName name space defined) }

/-- The type words that introduce a schema of their own. -/
def complexWords : List String := ["record", "error", "enum", "array", "map", "fixed"]

/-- Whether the members of an object declare a name, short and with its namespace. -/
def Declares (members : List (String × Json)) (space : Option String) (name : String)
    (own : Option String) : Prop :=
  ∃ written, Json.memberOrNull members "name" = .str written ∧ written ≠ "" ∧
    ((Json.memberOrNull members "namespace" = .null ∧ splitName written space = (name, own)) ∨
      ∃ q, Json.memberOrNull members "namespace" = .str q ∧
        splitName written (if q = "" then space else some q) = (name, own))

/-- Whether a value is an object or an array. -/
def IsNested : Json → Prop
  | .obj _ | .arr _ => True
  | _ => False

mutual

/-- `Reads q D v s D'`: inside the namespace `q`, with the names `D` defined, the value `v` is
read as `s`, and then the names `D'` are defined. -/
inductive Reads : Option String → Definitions → Json → Schema → Definitions → Prop
  | name {q D} (name : String) : Reads q D (.str name) (namedType name q D) D
  | union {q D D' items members} (nonempty : items ≠ [])
      (read : ReadsMembers q D items members D') :
      Reads q D (.arr items) { kind := .union, members := members } D'
  | wrapped {q D D' members inner s} (type : Json.member? members "type" = some inner)
      (nested : IsNested inner) (read : Reads q D inner s D') : Reads q D (.obj members) s D'
  | primitive {q D members word} (type : Json.member? members "type" = some (.str word))
      (known : word ∈ primitives) :
      Reads q D (.obj members) {
        kind := .primitive, typeName := some word,
        logicalType := Json.memberOrNull members "logicalType",
        documentation := Json.memberOrNull members "doc" } D
  | reference {q D members word} (type : Json.member? members "type" = some (.str word))
      (simple : word ∉ complexWords) (unknown : word ∉ primitives) :
      Reads q D (.obj members) (namedType word q D) D
  | array {q D D' members items s} (type : Json.member? members "type" = some (.str "array"))
      (present : Json.member? members "items" = some items) (read : Reads q D items s D') :
      Reads q D (.obj members) {
        kind := .array, items := some s,
        documentation := Json.memberOrNull members "doc" } D'
  | map {q D D' members values s} (type : Json.member? members "type" = some (.str "map"))
      (present : Json.member? members "values" = some values) (read : Reads q D values s D') :
      Reads q D (.obj members) {
        kind := .map, values := some s,
        documentation := Json.memberOrNull members "doc" } D'
  | enum {q D members name own items symbols}
      (type : Json.member? members "type" = some (.str "enum"))
      (declared : Declares members q name own)
      (listed : Json.memberOrNull members "symbols" = .arr items)
      (texts : strings? items = some symbols)
      (distinct : symbols.eraseDups.length = symbols.length) (new : fullName name own ∉ D) :
      Reads q D (.obj members) {
        kind := .enum, name := .str name, qualifier := own,
        documentation := Json.memberOrNull members "doc",
        symbols := symbols } (fullName name own :: D)
  | fixed {q D members name own size}
      (type : Json.member? members "type" = some (.str "fixed"))
      (declared : Declares members q name own)
      (sized : Json.memberOrNull members "size" = .int size) (new : fullName name own ∉ D) :
      Reads q D (.obj members) {
        kind := .primitive, typeName := some "fixed", name := .str name, qualifier := own,
        size := some size, logicalType := Json.memberOrNull members "logicalType",
        documentation := Json.memberOrNull members "doc" } (fullName name own :: D)
  | record {q D D' members word name own items fields}
      (type : Json.member? members "type" = some (.str word))
      (known : word = "record" ∨ word = "error") (declared : Declares members q name own)
      (listed : Json.member? members "fields" = some (.arr items))
      (new : fullName name own ∉ D)
      (read : ReadsFields own (fullName name own :: D) [] items fields D') :
      Reads q D (.obj members) {
        kind := .record, name := .str name, qualifier := own,
        documentation := Json.memberOrNull members "doc", fields := fields } D'

/-- The members of a union, one after another. -/
inductive ReadsMembers :
    Option String → Definitions → List Json → List Schema → Definitions → Prop
  | nil {q D} : ReadsMembers q D [] [] D
  | cons {q D D' D'' item rest s members} (first : Reads q D item s D')
      (others : ReadsMembers q D' rest members D'') :
      ReadsMembers q D (item :: rest) (s :: members) D''

/-- The fields of a record, one after another, none of them named as one of those seen. -/
inductive ReadsFields :
    Option String → Definitions → List String → List Json → List Field → Definitions → Prop
  | nil {q D seen} : ReadsFields q D seen [] [] D
  | cons {q D D' D'' seen name members type rest s fields}
      (named : Json.memberOrNull members "name" = .str name) (nonempty : name ≠ "")
      (typed : Json.member? members "type" = some type) (new : name ∉ seen)
      (first : Reads q D type s D') (others : ReadsFields q D' (name :: seen) rest fields D'') :
      ReadsFields q D seen (.obj members :: rest) ({
        name := name, type := s, documentation := Json.memberOrNull members "doc",
        hasDefault := Json.hasMember members "default",
        default := Json.memberOrNull members "default" } :: fields) D''

end

section

variable {q own : Option String} {name : String} {members : List (String × Json)}

theorem Declares.plain (declared : Declares members q name own) : IsPlain name := by
  obtain ⟨written, -, -, ⟨-, split⟩ | ⟨r, -, split⟩⟩ := declared
  · exact isPlain_of_splitName split
  · exact isPlain_of_splitName split

theorem Declares.space_ne_empty (declared : Declares members q name own) (hq : q ≠ some "") :
    own ≠ some "" := by
  obtain ⟨written, -, -, ⟨-, split⟩ | ⟨r, -, split⟩⟩ := declared
  · exact splitName_space_ne_empty hq split
  · refine splitName_space_ne_empty ?_ split
    split
    · exact hq
    · rename_i nonempty
      exact fun same => nonempty (Option.some.inj same)

end

section

variable {q : Option String} {D D' : Definitions} {path : Path}

theorem fail_ne_ok {α : Type} {fault : Fault} {a : α} :
    (fail fault path : Builder α) D ≠ .ok (a, D') := by
  intro h
  cases h

theorem define_eq_ok {name : String} {u : Unit} :
    define name q path D = .ok (u, D') ↔ fullName name q ∉ D ∧ fullName name q :: D = D' := by
  unfold define fullName
  rw [state_get_bind]
  dsimp only
  by_cases hn : (if name = "" then none else some (qualify name q)) ∈ D
  · simp only [List.contains_iff_mem, hn, if_true, not_true, false_and, iff_false]
    intro h
    cases h
  · simp only [List.contains_iff_mem, hn, if_false, not_false_iff, true_and]
    constructor
    · intro h
      cases h
      rfl
    · rintro rfl
      rfl

theorem declaredName_eq_ok {members : List (String × Json)} {label name : String}
    {own : Option String} :
    declaredName members path q label D = .ok ((name, own), D') ↔
      Declares members q name own ∧ D = D' := by
  unfold declaredName Declares
  cases hname : Json.memberOrNull members "name" with
  | str written =>
    by_cases he : written = ""
    · subst he
      simp only [if_true, Json.str.injEq, ne_eq]
      constructor
      · intro h
        cases h
      · rintro ⟨⟨w, rfl, hw, -⟩, -⟩
        exact absurd rfl hw
    · simp only [he, if_false]
      cases hspace : Json.memberOrNull members "namespace" with
      | null => simp [he]
      | str space => simp [he]
      | _ => simp [fail_ne_ok]
  | _ => simp [fail_ne_ok]

theorem typeNamed_eq (name : String) :
    typeNamed name q D = .ok (namedType name q D, D) := by
  unfold typeNamed namedType
  by_cases hp : name ∈ primitives
  · simp only [List.contains_iff_mem, hp, if_true]
    rfl
  · simp only [List.contains_iff_mem, hp, if_false]
    rw [state_get_bind]
    unfold referenceName
    dsimp only
    split <;> rfl

theorem schemaOf_obj (members : List (String × Json)) :
    schemaOf (.obj members) path q =
      match Json.member? members "type" with
      | none => fail .missingType path
      | some (.obj inner) => schemaOf (.obj inner) path q
      | some (.arr inner) => schemaOf (.arr inner) path q
      | some (.str word) =>
        if word = "record" ∨ word = "error" then recordOf members path q
        else if word = "enum" then enumOf members path q
        else if word = "array" then
          match Json.member? members "items" with
          | none => fail .missingItems path
          | some items => do
            return {
              kind := .array, items := some (← schemaOf items path q),
              documentation := Json.memberOrNull members "doc" }
        else if word = "map" then
          match Json.member? members "values" with
          | none => fail .missingValues path
          | some values => do
            return {
              kind := .map, values := some (← schemaOf values path q),
              documentation := Json.memberOrNull members "doc" }
        else if word = "fixed" then fixedOf members path q
        else if primitives.contains word then
          return {
            kind := .primitive, typeName := some word,
            logicalType := Json.memberOrNull members "logicalType",
            documentation := Json.memberOrNull members "doc" }
        else typeNamed word q
      | some other => fail (.typeNotString other.typeName) path := by
  rw [schemaOf.eq_def]
  dsimp only
  split <;> rename_i h <;> simp only [h]
  · split
    · rfl
    split
    · rfl
    split
    · split <;> rename_i h' <;> simp only [h']
    split
    · split <;> rename_i h' <;> simp only [h']
    rfl

theorem schemaOf_arr (items : List Json) :
    schemaOf (.arr items) path q =
      if items.isEmpty then fail .emptyUnion path
      else do return { kind := .union, members := ← membersOf items 0 path q } := by
  rw [schemaOf.eq_def]

theorem schemaOf_str (name : String) : schemaOf (.str name) path q = typeNamed name q := by
  rw [schemaOf.eq_def]

theorem membersOf_cons (item : Json) (rest : List Json) (position : Nat) :
    membersOf (item :: rest) position path q = do
      let schema ← schemaOf item (path ++ [.index position]) q
      return schema :: (← membersOf rest (position + 1) path q) := by
  rw [membersOf.eq_def]

theorem recordOf_eq (members : List (String × Json)) :
    recordOf members path q = (do
      let (name, own) ← declaredName members path q "Record"
      match Json.member? members "fields" with
      | none => fail (.missingFields name) path
      | some (.arr items) =>
        define name own path
        let fields ← fieldsOf items 0 name path own []
        return {
          kind := .record, name := .str name, qualifier := own,
          documentation := Json.memberOrNull members "doc", fields := fields }
      | some _ => fail (.fieldsNotArray name) path) := by
  rw [recordOf.eq_def]
  congr 1
  funext ⟨name, own⟩
  dsimp only
  split <;> rename_i h <;> simp only [h]

theorem fieldsOf_cons (members : List (String × Json)) (rest : List Json) (position : Nat)
    (record : String) (seen : List String) :
    fieldsOf (.obj members :: rest) position record path q seen =
      match Json.memberOrNull members "name" with
      | .str name =>
        if name = "" then fail (.fieldWithoutName position record) path
        else
          match Json.member? members "type" with
          | none => fail (.fieldWithoutType name) (path ++ [.name name])
          | some type =>
            if seen.contains name then fail (.duplicateField name record) (path ++ [.name name])
            else do
              let schema ← schemaOf type (path ++ [.name name]) q
              let field : Field := {
                name := name, type := schema, documentation := Json.memberOrNull members "doc",
                hasDefault := Json.hasMember members "default",
                default := Json.memberOrNull members "default" }
              return field :: (← fieldsOf rest (position + 1) record path q (name :: seen))
      | _ => fail (.fieldWithoutName position record) path := by
  rw [fieldsOf.eq_def]
  dsimp only
  cases Json.memberOrNull members "name" with
  | str name =>
    dsimp only
    split
    · rfl
    · split <;> rename_i typed <;> simp only [typed]
  | _ => rfl

theorem reads_of_enumOf {members : List (String × Json)} {s : Schema}
    (type : Json.member? members "type" = some (.str "enum"))
    (h : enumOf members path q D = .ok (s, D')) : Reads q D (.obj members) s D' := by
  unfold enumOf at h
  obtain ⟨⟨name, own⟩, D₁, hname, h⟩ := state_bind_eq_ok.mp h
  obtain ⟨declared, rfl⟩ := declaredName_eq_ok.mp hname
  dsimp only at h
  cases listed : Json.memberOrNull members "symbols" with
  | arr items =>
    cases texts : strings? items with
    | none =>
      simp only [listed, texts] at h
      exact absurd h fail_ne_ok
    | some symbols =>
      simp only [listed, texts] at h
      by_cases hd : symbols.eraseDups.length = symbols.length
      · simp only [hd, ne_eq, not_true, if_false] at h
        obtain ⟨u, D₂, hdef, h⟩ := state_bind_eq_ok.mp h
        obtain ⟨new, rfl⟩ := define_eq_ok.mp hdef
        obtain ⟨rfl, rfl⟩ := state_pure_eq_ok.mp h
        exact .enum type declared listed texts hd new
      · simp only [hd, ne_eq, not_false_iff, if_true] at h
        cases h
  | _ =>
    simp only [listed] at h
    exact absurd h fail_ne_ok

theorem reads_of_fixedOf {members : List (String × Json)} {s : Schema}
    (type : Json.member? members "type" = some (.str "fixed"))
    (h : fixedOf members path q D = .ok (s, D')) : Reads q D (.obj members) s D' := by
  unfold fixedOf at h
  obtain ⟨⟨name, own⟩, D₁, hname, h⟩ := state_bind_eq_ok.mp h
  obtain ⟨declared, rfl⟩ := declaredName_eq_ok.mp hname
  dsimp only at h
  cases sized : Json.memberOrNull members "size" with
  | int size =>
    simp only [sized] at h
    obtain ⟨u, D₂, hdef, h⟩ := state_bind_eq_ok.mp h
    obtain ⟨new, rfl⟩ := define_eq_ok.mp hdef
    obtain ⟨rfl, rfl⟩ := state_pure_eq_ok.mp h
    exact .fixed type declared sized new
  | _ =>
    simp only [sized] at h
    exact absurd h fail_ne_ok

theorem complexWord_not_primitive {word : String} (h : word ∈ complexWords) :
    word ∉ primitives := by
  revert word
  decide

theorem fixed_ne_of_primitive {name : String} (h : name ∈ primitives) : name ≠ "fixed" := by
  rintro rfl
  exact absurd h (by decide)

theorem enumOf_eq_ok {members : List (String × Json)} {name : String} {own : Option String}
    {items : List Json} {symbols : List String} (declared : Declares members q name own)
    (listed : Json.memberOrNull members "symbols" = .arr items)
    (texts : strings? items = some symbols)
    (distinct : symbols.eraseDups.length = symbols.length) (new : fullName name own ∉ D) :
    enumOf members path q D = .ok ({
      kind := .enum, name := .str name, qualifier := own,
      documentation := Json.memberOrNull members "doc",
      symbols := symbols }, fullName name own :: D) := by
  unfold enumOf
  refine state_bind_eq_ok.mpr ⟨_, _, declaredName_eq_ok.mpr ⟨declared, rfl⟩, ?_⟩
  simp only [listed, texts, distinct, ne_eq, not_true, if_false]
  exact state_bind_eq_ok.mpr ⟨(), _, define_eq_ok.mpr ⟨new, rfl⟩, rfl⟩

theorem fixedOf_eq_ok {members : List (String × Json)} {name : String} {own : Option String}
    {size : Int} (declared : Declares members q name own)
    (sized : Json.memberOrNull members "size" = .int size) (new : fullName name own ∉ D) :
    fixedOf members path q D = .ok ({
      kind := .primitive, typeName := some "fixed", name := .str name, qualifier := own,
      size := some size, logicalType := Json.memberOrNull members "logicalType",
      documentation := Json.memberOrNull members "doc" }, fullName name own :: D) := by
  unfold fixedOf
  refine state_bind_eq_ok.mpr ⟨_, _, declaredName_eq_ok.mpr ⟨declared, rfl⟩, ?_⟩
  simp only [sized]
  exact state_bind_eq_ok.mpr ⟨(), _, define_eq_ok.mpr ⟨new, rfl⟩, rfl⟩

end

mutual

theorem reads_of_schemaOf {node : Json} {path : Path} {q : Option String} {D D' : Definitions}
    {s : Schema} (h : schemaOf node path q D = .ok (s, D')) : Reads q D node s D' := by
  match node with
  | .str name =>
    rw [schemaOf_str, typeNamed_eq] at h
    cases h
    exact .name name
  | .arr items =>
    rw [schemaOf_arr] at h
    split at h
    · exact absurd h fail_ne_ok
    · rename_i nonempty
      obtain ⟨members, D₁, hm, h⟩ := state_bind_eq_ok.mp h
      obtain ⟨rfl, rfl⟩ := state_pure_eq_ok.mp h
      exact .union (by simpa using nonempty) (readsMembers_of_membersOf hm)
  | .obj members =>
    rw [schemaOf_obj] at h
    match type : Json.member? members "type" with
    | none =>
      simp only [type] at h
      exact absurd h fail_ne_ok
    | some (.obj inner) =>
      simp only [type] at h
      exact .wrapped type trivial (reads_of_schemaOf h)
    | some (.arr inner) =>
      simp only [type] at h
      exact .wrapped type trivial (reads_of_schemaOf h)
    | some (.str word) =>
      simp only [type] at h
      split at h
      · rename_i known
        exact reads_of_recordOf type known h
      split at h
      · rename_i he
        subst he
        exact reads_of_enumOf type h
      split at h
      · rename_i ha
        subst ha
        cases present : Json.member? members "items" with
        | none =>
          simp only [present] at h
          exact absurd h fail_ne_ok
        | some items =>
          simp only [present] at h
          obtain ⟨s', D₁, hs, h⟩ := state_bind_eq_ok.mp h
          obtain ⟨rfl, rfl⟩ := state_pure_eq_ok.mp h
          exact .array type present (reads_of_schemaOf hs)
      split at h
      · rename_i hm
        subst hm
        cases present : Json.member? members "values" with
        | none =>
          simp only [present] at h
          exact absurd h fail_ne_ok
        | some values =>
          simp only [present] at h
          obtain ⟨s', D₁, hs, h⟩ := state_bind_eq_ok.mp h
          obtain ⟨rfl, rfl⟩ := state_pure_eq_ok.mp h
          exact .map type present (reads_of_schemaOf hs)
      split at h
      · rename_i hf
        subst hf
        exact reads_of_fixedOf type h
      split at h
      · rename_i known
        obtain ⟨rfl, rfl⟩ := state_pure_eq_ok.mp h
        exact .primitive type (by simpa using known)
      · rename_i hr he ha hm hf unknown
        rw [typeNamed_eq] at h
        cases h
        exact .reference type (by simp_all [complexWords]) (by simpa using unknown)
    | some .null | some (.bool _) | some (.int _) | some (.float _) =>
      simp only [type] at h
      exact absurd h fail_ne_ok
  | .null | .bool _ | .int _ | .float _ =>
    rw [schemaOf.eq_def] at h
    exact absurd h fail_ne_ok
termination_by sizeOf node
decreasing_by
  · simp only [Json.arr.sizeOf_spec]
    omega
  · have := Json.sizeOf_lt_of_member? type
    simp only [Json.obj.sizeOf_spec] at *
    omega
  · have := Json.sizeOf_lt_of_member? type
    simp only [Json.obj.sizeOf_spec]
    omega
  · have := Json.sizeOf_lt_of_member? present
    simp only [Json.obj.sizeOf_spec]
    omega
  · have := Json.sizeOf_lt_of_member? present
    simp only [Json.obj.sizeOf_spec]
    omega
  · simp only [Json.obj.sizeOf_spec]
    omega

theorem readsMembers_of_membersOf {items : List Json} {position : Nat} {path : Path}
    {q : Option String} {D D' : Definitions} {members : List Schema}
    (h : membersOf items position path q D = .ok (members, D')) :
    ReadsMembers q D items members D' := by
  match items with
  | [] =>
    rw [membersOf.eq_def] at h
    obtain ⟨rfl, rfl⟩ := state_pure_eq_ok.mp h
    exact .nil
  | item :: rest =>
    rw [membersOf_cons] at h
    obtain ⟨s, D₁, hs, h⟩ := state_bind_eq_ok.mp h
    obtain ⟨others, D₂, ho, h⟩ := state_bind_eq_ok.mp h
    obtain ⟨rfl, rfl⟩ := state_pure_eq_ok.mp h
    exact .cons (reads_of_schemaOf hs) (readsMembers_of_membersOf ho)
termination_by sizeOf items

theorem reads_of_recordOf {members : List (String × Json)} {word : String} {path : Path}
    {q : Option String} {D D' : Definitions} {s : Schema}
    (type : Json.member? members "type" = some (.str word))
    (known : word = "record" ∨ word = "error")
    (h : recordOf members path q D = .ok (s, D')) : Reads q D (.obj members) s D' := by
  rw [recordOf_eq] at h
  obtain ⟨⟨name, own⟩, D₁, hname, h⟩ := state_bind_eq_ok.mp h
  obtain ⟨declared, rfl⟩ := declaredName_eq_ok.mp hname
  dsimp only at h
  match listed : Json.member? members "fields" with
  | none =>
    simp only [listed] at h
    exact absurd h fail_ne_ok
  | some (.arr items) =>
    simp only [listed] at h
    obtain ⟨u, D₂, hdef, h⟩ := state_bind_eq_ok.mp h
    obtain ⟨new, rfl⟩ := define_eq_ok.mp hdef
    obtain ⟨fields, D₃, hf, h⟩ := state_bind_eq_ok.mp h
    obtain ⟨rfl, rfl⟩ := state_pure_eq_ok.mp h
    exact .record type known declared listed new (readsFields_of_fieldsOf hf)
  | some .null | some (.bool _) | some (.int _) | some (.float _) | some (.str _)
  | some (.obj _) =>
    simp only [listed] at h
    exact absurd h fail_ne_ok
termination_by sizeOf members
decreasing_by
  have := Json.sizeOf_lt_of_member? listed
  simp only [Json.arr.sizeOf_spec] at this
  omega

theorem readsFields_of_fieldsOf {items : List Json} {position : Nat} {record : String}
    {path : Path} {q : Option String} {seen : List String} {D D' : Definitions}
    {fields : List Field} (h : fieldsOf items position record path q seen D = .ok (fields, D')) :
    ReadsFields q D seen items fields D' := by
  match items with
  | [] =>
    rw [fieldsOf.eq_def] at h
    obtain ⟨rfl, rfl⟩ := state_pure_eq_ok.mp h
    exact .nil
  | .obj members :: rest =>
    rw [fieldsOf_cons] at h
    cases named : Json.memberOrNull members "name" with
    | str name =>
      simp only [named] at h
      split at h
      · exact absurd h fail_ne_ok
      rename_i nonempty
      cases typed : Json.member? members "type" with
      | none =>
        simp only [typed] at h
        exact absurd h fail_ne_ok
      | some type =>
        simp only [typed] at h
        split at h
        · exact absurd h fail_ne_ok
        rename_i new
        obtain ⟨s, D₁, hs, h⟩ := state_bind_eq_ok.mp h
        obtain ⟨others, D₂, ho, h⟩ := state_bind_eq_ok.mp h
        obtain ⟨rfl, rfl⟩ := state_pure_eq_ok.mp h
        exact .cons named nonempty typed (by simpa using new) (reads_of_schemaOf hs)
          (readsFields_of_fieldsOf ho)
    | _ =>
      simp only [named] at h
      exact absurd h fail_ne_ok
  | .null :: _ | .bool _ :: _ | .int _ :: _ | .float _ :: _ | .str _ :: _ | .arr _ :: _ =>
    rw [fieldsOf.eq_def] at h
    exact absurd h fail_ne_ok
termination_by sizeOf items
decreasing_by
  · have := Json.sizeOf_lt_of_member? typed
    simp only [List.cons.sizeOf_spec, Json.obj.sizeOf_spec]
    omega
  · simp only [List.cons.sizeOf_spec]
    omega

end

mutual

theorem schemaOf_of_reads {q : Option String} {D D' : Definitions} {node : Json} {s : Schema}
    (h : Reads q D node s D') (path : Path) : schemaOf node path q D = .ok (s, D') := by
  match h with
  | .name name => rw [schemaOf_str, typeNamed_eq]
  | .union nonempty read =>
    rw [schemaOf_arr, List.isEmpty_eq_false_iff.mpr nonempty]
    exact state_bind_eq_ok.mpr ⟨_, _, membersOf_of_readsMembers read 0 path, rfl⟩
  | @Reads.wrapped _ _ _ _ (.obj _) _ type nested read =>
    rw [schemaOf_obj, type]
    exact schemaOf_of_reads read path
  | @Reads.wrapped _ _ _ _ (.arr _) _ type nested read =>
    rw [schemaOf_obj, type]
    exact schemaOf_of_reads read path
  | .primitive type known =>
    rw [schemaOf_obj, type]
    have hc := mt complexWord_not_primitive (not_not.mpr known)
    simp only [complexWords, List.mem_cons, List.not_mem_nil, or_false, not_or] at hc
    simp only [hc, or_self, if_false, List.contains_iff_mem, known, if_true]
    rfl
  | .reference type simple unknown =>
    rw [schemaOf_obj, type]
    simp only [complexWords, List.mem_cons, List.not_mem_nil, or_false, not_or] at simple
    simp only [simple, or_self, if_false, List.contains_iff_mem, unknown]
    exact typeNamed_eq _
  | .array type present read =>
    rw [schemaOf_obj, type]
    simp only [present]
    exact state_bind_eq_ok.mpr ⟨_, _, schemaOf_of_reads read path, rfl⟩
  | .map type present read =>
    rw [schemaOf_obj, type]
    simp only [present]
    exact state_bind_eq_ok.mpr ⟨_, _, schemaOf_of_reads read path, rfl⟩
  | .enum type declared listed texts distinct new =>
    rw [schemaOf_obj, type]
    exact enumOf_eq_ok declared listed texts distinct new
  | .fixed type declared sized new =>
    rw [schemaOf_obj, type]
    exact fixedOf_eq_ok declared sized new
  | .record type known declared listed new read =>
    rw [schemaOf_obj, type]
    simp only [known, if_true]
    rw [recordOf_eq]
    refine state_bind_eq_ok.mpr ⟨_, _, declaredName_eq_ok.mpr ⟨declared, rfl⟩, ?_⟩
    simp only [listed]
    refine state_bind_eq_ok.mpr ⟨(), _, define_eq_ok.mpr ⟨new, rfl⟩, ?_⟩
    exact state_bind_eq_ok.mpr ⟨_, _, fieldsOf_of_readsFields read 0 _ path, rfl⟩

theorem membersOf_of_readsMembers {q : Option String} {D D' : Definitions} {items : List Json}
    {members : List Schema} (h : ReadsMembers q D items members D') (position : Nat)
    (path : Path) : membersOf items position path q D = .ok (members, D') := by
  match h with
  | .nil => rw [membersOf.eq_def]; rfl
  | .cons first others =>
    rw [membersOf_cons]
    exact state_bind_eq_ok.mpr ⟨_, _, schemaOf_of_reads first _,
      state_bind_eq_ok.mpr ⟨_, _, membersOf_of_readsMembers others _ path, rfl⟩⟩

theorem fieldsOf_of_readsFields {q : Option String} {D D' : Definitions} {seen : List String}
    {items : List Json} {fields : List Field} (h : ReadsFields q D seen items fields D')
    (position : Nat) (record : String) (path : Path) :
    fieldsOf items position record path q seen D = .ok (fields, D') := by
  match h with
  | .nil => rw [fieldsOf.eq_def]; rfl
  | .cons named nonempty typed new first others =>
    rw [fieldsOf_cons]
    simp only [named, nonempty, typed, List.contains_iff_mem, new, if_false]
    exact state_bind_eq_ok.mpr ⟨_, _, schemaOf_of_reads first _,
      state_bind_eq_ok.mpr ⟨_, _, fieldsOf_of_readsFields others _ record path, rfl⟩⟩
end

/-- The reader returns exactly what its readings say. -/
theorem schemaOf_eq_ok {q : Option String} {D D' : Definitions} {node : Json} {s : Schema}
    {path : Path} : schemaOf node path q D = .ok (s, D') ↔ Reads q D node s D' :=
  ⟨reads_of_schemaOf, fun h => schemaOf_of_reads h path⟩

theorem ofJson_eq_ok {v : Json} {s : Schema} :
    ofJson v = .ok s ↔ ∃ D, Reads none [] v s D := by
  unfold ofJson StateT.run'
  rw [map_eq_ok]
  constructor
  · rintro ⟨⟨t, D⟩, h, rfl⟩
    exact ⟨D, schemaOf_eq_ok.mp h⟩
  · rintro ⟨D, h⟩
    exact ⟨(s, D), schemaOf_eq_ok.mpr h, rfl⟩

theorem reads_unique {q : Option String} {D D₁ D₂ : Definitions} {v : Json} {s t : Schema}
    (h : Reads q D v s D₁) (h' : Reads q D v t D₂) : s = t ∧ D₁ = D₂ := by
  have first : schemaOf v [] q D = .ok (s, D₁) := schemaOf_eq_ok.mpr h
  have second : schemaOf v [] q D = .ok (t, D₂) := schemaOf_eq_ok.mpr h'
  exact Prod.mk.inj (Except.ok.inj (first.symm.trans second))

section

variable {q : Option String} {D D' : Definitions} {members : List (String × Json)} {s : Schema}

theorem of_reads_wrapped {inner : Json} (type : Json.member? members "type" = some inner)
    (nested : IsNested inner) (h : Reads q D (.obj members) s D') : Reads q D inner s D' := by
  cases inner with
  | obj _ | arr _ =>
    cases h with
    | wrapped again _ read =>
      rw [type] at again
      cases again
      exact read
    | _ => simp_all
  | _ => cases nested

theorem of_reads_enum (type : Json.member? members "type" = some (.str "enum"))
    (h : Reads q D (.obj members) s D') : ∃ name own symbols, Declares members q name own ∧
      D' = fullName name own :: D ∧ s = {
        kind := .enum, name := .str name, qualifier := own,
        documentation := Json.memberOrNull members "doc", symbols := symbols } := by
  cases h with
  | enum _ declared _ _ _ _ => exact ⟨_, _, _, declared, rfl, rfl⟩
  | _ => simp_all [primitives, complexWords, IsNested]

theorem of_reads_fixed (type : Json.member? members "type" = some (.str "fixed"))
    (h : Reads q D (.obj members) s D') : ∃ name own size, Declares members q name own ∧
      D' = fullName name own :: D ∧ s = {
        kind := .primitive, typeName := some "fixed", name := .str name, qualifier := own,
        size := some size, logicalType := Json.memberOrNull members "logicalType",
        documentation := Json.memberOrNull members "doc" } := by
  cases h with
  | fixed _ declared _ _ => exact ⟨_, _, _, declared, rfl, rfl⟩
  | _ => simp_all [primitives, complexWords, IsNested]

theorem of_reads_record {word : String} (type : Json.member? members "type" = some (.str word))
    (known : word = "record" ∨ word = "error") (h : Reads q D (.obj members) s D') :
    ∃ name own items fields, Declares members q name own ∧
      Json.member? members "fields" = some (.arr items) ∧
      ReadsFields own (fullName name own :: D) [] items fields D' ∧ s = {
        kind := .record, name := .str name, qualifier := own,
        documentation := Json.memberOrNull members "doc", fields := fields } := by
  obtain rfl | rfl := known
  all_goals
    cases h with
    | record _ _ declared listed _ read => exact ⟨_, _, _, _, declared, listed, read, rfl⟩
    | _ => simp_all [primitives, complexWords, IsNested]

theorem of_reads_array {items : Json} (type : Json.member? members "type" = some (.str "array"))
    (present : Json.member? members "items" = some items) (h : Reads q D (.obj members) s D') :
    ∃ inner, Reads q D items inner D' ∧ s = {
      kind := .array, items := some inner, documentation := Json.memberOrNull members "doc" } := by
  cases h with
  | array _ again read =>
    rw [present] at again
    cases again
    exact ⟨_, read, rfl⟩
  | _ => simp_all [primitives, complexWords, IsNested]

theorem of_reads_map {values : Json} (type : Json.member? members "type" = some (.str "map"))
    (present : Json.member? members "values" = some values) (h : Reads q D (.obj members) s D') :
    ∃ inner, Reads q D values inner D' ∧ s = {
      kind := .map, values := some inner, documentation := Json.memberOrNull members "doc" } := by
  cases h with
  | map _ again read =>
    rw [present] at again
    cases again
    exact ⟨_, read, rfl⟩
  | _ => simp_all [primitives, complexWords, IsNested]

end

end SchemaReview.Avro
