import SchemaReview.Avro.Writer
import SchemaReview.Proofs.Avro.Naming
import SchemaReview.Proofs.Avro.Reading
import SchemaReview.Proofs.Json.Member

/-!
# Writing an Avro schema and reading it again

A written node holds the full name of each type that it refers to, and the short name and the
namespace of each type that it defines. Read again inside the same namespace and after the same
definitions, it gives the same node and leaves the same definitions: the induction over a reading
carries both. What cannot be written so that it reads back is excluded by name: a leading dot
leaves the enclosing namespace, a trailing dot leaves no short name, and attributes of a primitive
type that are present but empty are not written.
-/
namespace SchemaReview.Avro

/-- `Holds v u`: the reader reads `u` as a schema directly below the schema `v`. -/
inductive Holds : Json → Json → Prop
  | member {items u} (listed : u ∈ items) : Holds (.arr items) u
  | type {members u} (present : Json.member? members "type" = some u) : Holds (.obj members) u
  | items {members u} (type : Json.member? members "type" = some (.str "array"))
      (present : Json.member? members "items" = some u) : Holds (.obj members) u
  | values {members u} (type : Json.member? members "type" = some (.str "map"))
      (present : Json.member? members "values" = some u) : Holds (.obj members) u
  | field {members word items entry u} (type : Json.member? members "type" = some (.str word))
      (known : word = "record" ∨ word = "error")
      (fields : Json.member? members "fields" = some (.arr items)) (listed : .obj entry ∈ items)
      (present : Json.member? entry "type" = some u) : Holds (.obj members) u

/-- The type words that define a name. -/
def namingWords : List String := ["record", "error", "enum", "fixed"]

/-- Whether an attribute is absent, `null` or a text that is not empty. -/
def IsPlainAttribute (value : Json) : Prop :=
  value = .null ∨ ∃ text, value = .str text ∧ text ≠ ""

/-- What a schema value itself, without the schemas below it, has to keep to. -/
structure PortableNode (v : Json) : Prop where
  reference : ∀ name, v = .str name → ¬ StartsWithDot name
  definition : ∀ members word name, v = .obj members →
    Json.member? members "type" = some (.str word) → word ∈ namingWords →
    Json.member? members "name" = some (.str name) → ¬ StartsWithDot name ∧ ¬ EndsWithDot name
  attributes : ∀ members word, v = .obj members →
    Json.member? members "type" = some (.str word) → word ∈ primitives →
    IsPlainAttribute (Json.memberOrNull members "doc") ∧
      IsPlainAttribute (Json.memberOrNull members "logicalType")

/-- Whether no type reference starts with a dot, no defined name starts or ends with one, and the
attributes of primitive types are absent or texts, at every schema that a value holds. -/
def Portable (v : Json) : Prop := ∀ u, Relation.ReflTransGen Holds v u → PortableNode u

theorem Portable.node {v : Json} (h : Portable v) : PortableNode v := h v .refl

theorem Portable.below {v u : Json} (h : Portable v) (hu : Holds v u) : Portable u :=
  fun w hw => h w (.head hu hw)

theorem portable_of_below {v : Json} (node : PortableNode v)
    (below : ∀ u, Holds v u → Portable u) : Portable v := by
  intro w hw
  obtain rfl | ⟨u, hu, hw⟩ := hw.cases_head
  · exact node
  · exact below u hu w hw

theorem portable_str {name : String} (h : ¬ StartsWithDot name) : Portable (.str name) := by
  refine portable_of_below ⟨?_, nofun, nofun⟩ nofun
  intro other he
  cases he
  exact h

section

variable {q own : Option String} {D : Definitions} {name short : String}

/-- A name that does not start with a dot loses the enclosing namespace only for another one. -/
theorem splitName_space_eq_none (hd : ¬ StartsWithDot name) (h : splitName name q = (short, none)) :
    q = none := by
  obtain ⟨-, hs⟩ | ⟨space, last, rfl, -, hs⟩ := splitName_cases name q
  · rw [h] at hs
    cases hs
    rfl
  · rw [h] at hs
    by_cases he : space = ""
    · refine absurd ?_ hd
      simp [StartsWithDot, he]
    · simp [he] at hs

/-- A reference stays as it is written, or gets the enclosing namespace. -/
theorem referenceName_cases (hd : ¬ StartsWithDot name) :
    referenceName name q D = name ∨
      ∃ r, q = some r ∧ r ≠ "" ∧ IsPlain name ∧ referenceName name q D = r ++ "." ++ name := by
  obtain ⟨hp, hs⟩ | ⟨space, last, rfl, hp, hs⟩ := splitName_cases name q
  · unfold referenceName
    rw [hs]
    cases q with
    | none => simp [qualify]
    | some r =>
      by_cases hr : r = ""
      · simp [qualify, hr]
      · simp only [qualify, if_neg hr]
        split
        · exact .inl rfl
        · exact .inr ⟨r, rfl, hr, hp, rfl⟩
  · have he : space ≠ "" := by
      rintro rfl
      exact hd (by simp [StartsWithDot])
    refine .inl ?_
    simp only [referenceName, hs, he, if_false, qualify, ite_self]

/-- Reading the name that a reference was resolved to resolves to the same name. -/
theorem referenceName_idem (hd : ¬ StartsWithDot name) :
    referenceName (referenceName name q D) q D = referenceName name q D := by
  obtain h | ⟨r, rfl, hr, hp, h⟩ := referenceName_cases hd (q := q) (D := D)
  · rw [h, h]
  · rw [h]
    simp only [referenceName, splitName_dotted hr hp, qualify, if_neg hr, ite_self]

/-- A plain name means the type of that name around it, unless only the plain name is defined. -/
theorem referenceName_of_plain {target : String} (plain : IsPlain target) (hq : q ≠ some "") :
    referenceName target q D = target ↔
      q = none ∨ some (qualify target q) ∉ D ∧ some target ∈ D := by
  unfold referenceName
  rw [splitName_of_plain plain]
  cases q with
  | none => simp [qualify]
  | some r =>
    have nonempty : r ≠ "" := fun same => hq (congrArg some same)
    have apart : qualify target (some r) ≠ target := by
      rw [qualify, if_neg nonempty]
      exact dotted_ne_self _ plain
    by_cases inner : some (qualify target (some r)) ∈ D
    · simp [inner, apart]
    · by_cases outer : some target ∈ D
      · simp [inner, outer]
      · simp [inner, outer, apart]

/-- A name with a namespace is the name itself, or the two with a dot between them. -/
theorem qualify_cases (short : String) (own : Option String) :
    qualify short own = short ∨ ∃ r, r ≠ "" ∧ qualify short own = r ++ "." ++ short := by
  cases own with
  | none => exact .inl rfl
  | some r =>
    by_cases empty : r = ""
    · exact .inl (if_pos empty)
    · exact .inr ⟨r, empty, if_neg empty⟩

/-- A dotted name that a reference was resolved to is resolved to itself. -/
theorem referenceName_of_dotted {target : String} (dotted : ¬ IsPlain target)
    (h : referenceName name q D = target) : referenceName target q D = target := by
  by_cases same : name = target
  · rwa [same] at h
  · have full : qualify (splitName name q).1 (splitName name q).2 = target := by
      unfold referenceName at h
      dsimp only at h
      split at h
      · exact absurd h same
      · exact h
    have plain : IsPlain (splitName name q).1 := isPlain_of_splitName rfl
    obtain bare | ⟨r, nonempty, joined⟩ := qualify_cases (splitName name q).1 (splitName name q).2
    · rw [← bare, full] at plain
      exact absurd plain dotted
    · rw [← full, joined]
      simp [referenceName, splitName_dotted nonempty plain, qualify, nonempty]

theorem isPlain_of_primitive (h : name ∈ primitives) : IsPlain name := by
  revert name
  decide

theorem referenceName_not_primitive (hd : ¬ StartsWithDot name) (hn : name ∉ primitives) :
    referenceName name q D ∉ primitives := by
  obtain h | ⟨r, -, -, -, h⟩ := referenceName_cases hd (q := q) (D := D)
  · rwa [h]
  · rw [h]
    exact mt isPlain_of_primitive (not_plain_dotted r name)

/-- A type name is written as it was resolved, and is then read as the same node. -/
theorem namedType_roundTrip (hd : ¬ StartsWithDot name) :
    ∃ w, toJson (namedType name q D) = .ok w ∧ Reads q D w (namedType name q D) D := by
  by_cases hp : name ∈ primitives
  · have hf := fixed_ne_of_primitive hp
    refine ⟨.str name, by simp [namedType, hp, toJson, Json.isTruthy, Json.ofOption, hf], ?_⟩
    exact .name name
  · refine ⟨.str (referenceName name q D), by simp [namedType, hp, toJson, Json.ofOption], ?_⟩
    have h := Reads.name (q := q) (D := D) (referenceName name q D)
    rw [namedType, if_neg (referenceName_not_primitive hd hp), referenceName_idem hd] at h
    rwa [namedType, if_neg hp]

end

/-- A short name and a namespace that are read back as they are, inside the namespace `q`. -/
structure IsWritable (q : Option String) (name : String) (own : Option String) : Prop where
  plain : IsPlain name
  nonempty : name ≠ ""
  space : own ≠ some ""
  outer : own = none → q = none

section

variable {q own : Option String} {D D' : Definitions} {members : List (String × Json)}
  {name word : String}

theorem isWritable_of_declares (hq : q ≠ some "") (portable : PortableNode (.obj members))
    (type : Json.member? members "type" = some (.str word)) (naming : word ∈ namingWords)
    (declared : Declares members q name own) : IsWritable q name own := by
  have plain := declared.plain
  have space := declared.space_ne_empty hq
  obtain ⟨written, hname, hne, hspace⟩ := declared
  obtain ⟨hstart, hend⟩ := portable.definition members word written rfl type naming
    (Json.member?_of_memberOrNull hname (by simp))
  obtain ⟨-, hs⟩ | ⟨r, -, hs⟩ := hspace
  · refine ⟨plain, mt (splitName_short_eq_empty hne hs).mp hend, space, ?_⟩
    rintro rfl
    exact splitName_space_eq_none hstart hs
  · refine ⟨plain, mt (splitName_short_eq_empty hne hs).mp hend, space, ?_⟩
    rintro rfl
    have h := splitName_space_eq_none hstart hs
    split at h
    · exact h
    · cases h

/-- A declaration that is written is read inside a namespace as one of the written name, which must
not be empty, in the written namespace or the one around it. -/
theorem declares_written {short : String} {space : Option String} (plain : IsPlain name)
    (nonempty : own ≠ some "") (named : Json.memberOrNull members "name" = .str name)
    (placed : Json.memberOrNull members "namespace" = Json.ofOption .str own) :
    Declares members q short space ↔ name ≠ "" ∧ short = name ∧ space = own.or q := by
  unfold Declares
  rw [named, placed]
  cases own with
  | none =>
    constructor
    · rintro ⟨written, same, given, ⟨-, split⟩ | ⟨r, absent, -⟩⟩
      · obtain rfl := Json.str.inj same
        rw [splitName_of_plain plain] at split
        obtain ⟨rfl, rfl⟩ := Prod.mk.inj split
        exact ⟨given, rfl, rfl⟩
      · cases absent
    · rintro ⟨given, rfl, rfl⟩
      exact ⟨short, rfl, given, .inl ⟨rfl, splitName_of_plain plain⟩⟩
  | some r =>
    have inner : r ≠ "" := fun same => nonempty (congrArg some same)
    constructor
    · rintro ⟨written, same, given, ⟨absent, -⟩ | ⟨s, held, split⟩⟩
      · cases absent
      · obtain rfl := Json.str.inj same
        obtain rfl := Json.str.inj held
        rw [if_neg inner, splitName_of_plain plain] at split
        obtain ⟨rfl, rfl⟩ := Prod.mk.inj split
        exact ⟨given, rfl, rfl⟩
    · rintro ⟨given, rfl, rfl⟩
      refine ⟨short, rfl, given, .inr ⟨r, rfl, ?_⟩⟩
      rw [if_neg inner, splitName_of_plain plain]
      rfl

theorem declares_of_isWritable (h : IsWritable q name own)
    (hname : Json.memberOrNull members "name" = .str name)
    (hspace : Json.memberOrNull members "namespace" = Json.ofOption .str own) :
    Declares members q name own := by
  refine (declares_written h.plain h.space hname hspace).mpr ⟨h.nonempty, rfl, ?_⟩
  cases own with
  | none => exact (h.outer rfl).symm
  | some r => rfl

end

theorem isTruthy_of_plain {value : Json} (h : IsPlainAttribute value) :
    value.isTruthy = !value.isNull := by
  obtain rfl | ⟨text, rfl, ht⟩ := h
  · rfl
  · simp [Json.isTruthy, Json.isNull, ht]

theorem reads_of_eq {q : Option String} {D D' : Definitions} {v : Json} {s t : Schema}
    (hs : s = t) (h : Reads q D v s D') : Reads q D v t D' := hs ▸ h

/-- A primitive type whose attributes are plain is written as its name if it has none of them. -/
theorem primitive_roundTrip {word : String} {doc logical : Json} (q : Option String)
    (D : Definitions) (known : word ∈ primitives) (hdoc : IsPlainAttribute doc)
    (hlogical : IsPlainAttribute logical) :
    ∃ w, toJson {
        kind := .primitive, typeName := some word, logicalType := logical,
        documentation := doc } = .ok w ∧
      Reads q D w {
        kind := .primitive, typeName := some word, logicalType := logical,
        documentation := doc } D := by
  have hf := fixed_ne_of_primitive known
  by_cases h : logical.isTruthy || doc.isTruthy
  · refine ⟨_, by simp [toJson, hf, h]; rfl, ?_⟩
    refine reads_of_eq ?_ (.primitive (by simp [Json.ofOption]) known)
    simp [Json.memberOrNull, Json.member?_present_of_ne]
  · rw [isTruthy_of_plain hdoc, isTruthy_of_plain hlogical] at h
    simp only [Bool.or_eq_true, Bool.not_eq_true', not_or, Bool.not_eq_false,
      Json.isNull_iff] at h
    obtain ⟨rfl, rfl⟩ := h
    refine ⟨.str word, by simp [toJson, hf, Json.isTruthy, Json.ofOption], ?_⟩
    have h := Reads.name (q := q) (D := D) word
    rwa [namedType, if_pos known] at h

theorem strings?_map (symbols : List String) : strings? (symbols.map .str) = some symbols := by
  induction symbols with
  | nil => rfl
  | cons symbol rest ih => simp [strings?, ih]

/-- What writing and reading again does to one node, inside a namespace and after definitions. -/
def RoundTrips (q : Option String) (D : Definitions) (s : Schema) (D' : Definitions) : Prop :=
  ∃ w, toJson s = .ok w ∧ Reads q D w s D'

theorem enum_roundTrip {q own : Option String} {D : Definitions} {name : String}
    {symbols : List String} (writable : IsWritable q name own) (doc : Json)
    (distinct : symbols.eraseDups.length = symbols.length) (new : fullName name own ∉ D) :
    RoundTrips q D {
      kind := .enum, name := .str name, qualifier := own, documentation := doc,
      symbols := symbols } (fullName name own :: D) := by
  refine ⟨_, by rw [toJson], ?_⟩
  refine reads_of_eq ?_ (.enum (by simp)
    (declares_of_isWritable writable (by simp [Json.memberOrNull])
      (by simp [Json.memberOrNull, Json.member?_present_of_ne]))
    (by simp [Json.memberOrNull, Json.member?_present_of_ne]) (strings?_map symbols)
    distinct new)
  simp [Json.memberOrNull, Json.member?_present_of_ne]

/-- The writer leaves out an empty namespace of a fixed type, which no reading yields. -/
theorem toJson_fixed {own : Option String} (h : own ≠ some "") (name logical doc : Json)
    (size : Int) :
    toJson {
      kind := .primitive, typeName := some "fixed", name := name, qualifier := own,
      size := some size, logicalType := logical, documentation := doc } =
    .ok (.obj ([("type", .str "fixed"), ("name", name)] ++
      Json.present "namespace" (Json.ofOption .str own) ++ [("size", .int size)] ++
      Json.present "logicalType" logical ++ Json.present "doc" doc)) := by
  cases own with
  | none => simp [toJson, Json.present, Json.ofOption, Json.isNull]
  | some q =>
    have hq : q ≠ "" := fun he => h (congrArg some he)
    simp [toJson, hq, Json.present, Json.ofOption, Json.isNull]

theorem fixed_roundTrip {q own : Option String} {D : Definitions} {name : String}
    (writable : IsWritable q name own) (size : Int) (logical doc : Json)
    (new : fullName name own ∉ D) :
    RoundTrips q D {
      kind := .primitive, typeName := some "fixed", name := .str name, qualifier := own,
      size := some size, logicalType := logical,
      documentation := doc } (fullName name own :: D) := by
  refine ⟨_, toJson_fixed writable.space .., ?_⟩
  refine reads_of_eq ?_ (.fixed (by simp)
    (declares_of_isWritable writable (by simp [Json.memberOrNull])
      (by simp [Json.memberOrNull, Json.member?_present_of_ne]))
    (by simp [Json.memberOrNull, Json.member?_present_of_ne]; rfl) new)
  simp [Json.memberOrNull, Json.member?_present_of_ne]

theorem readsFields_of_eq {q : Option String} {D D' : Definitions} {seen : List String}
    {items : List Json} {fields written : List Field} (he : fields = written)
    (h : ReadsFields q D seen items fields D') : ReadsFields q D seen items written D' := he ▸ h

mutual

theorem roundTrips_of_reads {q : Option String} {D D' : Definitions} {v : Json} {s : Schema}
    (hq : q ≠ some "") (portable : Portable v) (h : Reads q D v s D') : RoundTrips q D s D' := by
  match h with
  | .name name => exact namedType_roundTrip (portable.node.reference name rfl)
  | .union nonempty read =>
    obtain ⟨ws, hw, hr⟩ :=
      membersRoundTrip_of_reads hq (fun u hu => portable.below (.member hu)) read
    refine ⟨.arr ws, by rw [toJson, hw]; rfl, .union ?_ hr⟩
    rintro rfl
    cases hr
    cases read
    exact nonempty rfl
  | .wrapped type nested read => exact roundTrips_of_reads hq (portable.below (.type type)) read
  | .primitive type known =>
    obtain ⟨hdoc, hlogical⟩ := portable.node.attributes _ _ rfl type known
    exact primitive_roundTrip q D known hdoc hlogical
  | .reference type simple unknown =>
    exact namedType_roundTrip ((portable.below (.type type)).node.reference _ rfl)
  | .array type present read =>
    obtain ⟨w, hw, hr⟩ := roundTrips_of_reads hq (portable.below (.items type present)) read
    refine ⟨_, by rw [toJson, innerToJson, hw]; rfl, ?_⟩
    refine reads_of_eq ?_ (.array (by simp) (by simp) hr)
    simp [Json.memberOrNull]
  | .map type present read =>
    obtain ⟨w, hw, hr⟩ := roundTrips_of_reads hq (portable.below (.values type present)) read
    refine ⟨_, by rw [toJson, innerToJson, hw]; rfl, ?_⟩
    refine reads_of_eq ?_ (.map (by simp) (by simp) hr)
    simp [Json.memberOrNull]
  | .enum type declared listed texts distinct new =>
    have writable := isWritable_of_declares hq portable.node type (by simp [namingWords]) declared
    exact enum_roundTrip writable _ distinct new
  | .fixed type declared sized new =>
    have writable := isWritable_of_declares hq portable.node type (by simp [namingWords]) declared
    exact fixed_roundTrip writable _ _ _ new
  | .record type known declared listed new read =>
    have writable := isWritable_of_declares hq portable.node type
      (by obtain rfl | rfl := known <;> simp [namingWords]) declared
    obtain ⟨ws, hw, hr⟩ := fieldsRoundTrip_of_reads writable.space
      (fun members hm u hu => portable.below (.field type known listed hm hu)) read
    refine ⟨_, by rw [toJson, hw]; rfl, ?_⟩
    refine reads_of_eq ?_ (.record (by simp) (.inl rfl)
      (declares_of_isWritable writable (by simp [Json.memberOrNull])
        (by simp [Json.memberOrNull, Json.member?_present_of_ne]))
      (by simp [Json.member?_present_of_ne]) new hr)
    simp [Json.memberOrNull, Json.member?_present_of_ne]

theorem membersRoundTrip_of_reads {q : Option String} {D D' : Definitions} {items : List Json}
    {members : List Schema} (hq : q ≠ some "") (portable : ∀ u ∈ items, Portable u)
    (h : ReadsMembers q D items members D') :
    ∃ ws, membersToJson members = .ok ws ∧ ReadsMembers q D ws members D' := by
  match h with
  | .nil => exact ⟨[], rfl, .nil⟩
  | .cons first others =>
    obtain ⟨w, hw, hr⟩ := roundTrips_of_reads hq (portable _ List.mem_cons_self) first
    obtain ⟨ws, hws, hrs⟩ :=
      membersRoundTrip_of_reads hq (fun u hu => portable u (List.mem_cons_of_mem _ hu)) others
    refine ⟨w :: ws, ?_, .cons hr hrs⟩
    rw [membersToJson, hw, hws]
    rfl

theorem fieldsRoundTrip_of_reads {q : Option String} {D D' : Definitions} {seen : List String}
    {items : List Json} {fields : List Field} (hq : q ≠ some "")
    (portable : ∀ members, .obj members ∈ items → ∀ u, Json.member? members "type" = some u →
      Portable u)
    (h : ReadsFields q D seen items fields D') :
    ∃ ws, fieldsToJson fields = .ok ws ∧ ReadsFields q D seen ws fields D' := by
  match h with
  | .nil => exact ⟨[], rfl, .nil⟩
  | .cons named nonempty typed new first others =>
    obtain ⟨w, hw, hr⟩ := roundTrips_of_reads hq (portable _ List.mem_cons_self _ typed) first
    obtain ⟨ws, hws, hrs⟩ := fieldsRoundTrip_of_reads hq
      (fun members hm => portable members (List.mem_cons_of_mem _ hm)) others
    refine ⟨_, by rw [fieldsToJson, fieldToJson, hw, hws]; rfl, ?_⟩
    refine readsFields_of_eq ?_ (.cons (by simp [Json.memberOrNull]) nonempty (by simp) new hr hrs)
    simp only [List.cons.injEq, FieldOf.mk.injEq, and_true, true_and]
    refine ⟨?_, Json.hasMember_congr ?_, Json.memberOrNull_congr ?_⟩
    · simp [Json.memberOrNull, Json.member?_copied_of_ne]
    · simp [Json.member?_present_of_ne, Json.member?_copied]
    · simp [Json.member?_present_of_ne, Json.member?_copied]

end

/-- An accepted schema whose names and attributes are portable is written as a value that reads
back as the same schema. -/
theorem toJson_readsBack {v : Json} {s : Schema} (portable : Portable v) (h : ofJson v = .ok s) :
    ∃ w, toJson s = .ok w ∧ ofJson w = .ok s := by
  obtain ⟨D, read⟩ := ofJson_eq_ok.mp h
  obtain ⟨w, written, again⟩ := roundTrips_of_reads (by simp) portable read
  exact ⟨w, written, ofJson_eq_ok.mpr ⟨D, again⟩⟩

/-- A record in a namespace with an optional field of its own type. -/
def listRecord : Json :=
  .obj [("type", .str "record"), ("name", .str "a.Node"),
    ("fields", .arr [.obj [("name", .str "next"), ("type", .arr [.str "null", .str "Node"]),
      ("default", .null)]])]

theorem portable_listRecord : Portable listRecord := by
  refine portable_of_below ⟨nofun, ?_, ?_⟩ ?_
  · intro members word name he type naming named
    cases he
    simp at named
    subst named
    decide
  · intro members word he type known
    cases he
    simp at type
    subst type
    exact absurd known (by decide)
  · intro u hu
    cases hu with
    | type present =>
      simp at present
      subst present
      exact portable_str (by decide)
    | items type present => simp at type
    | values type present => simp at type
    | field type known fields listed present =>
      simp at fields
      subst fields
      simp at listed
      subst listed
      simp at present
      subst present
      refine portable_of_below ⟨nofun, nofun, nofun⟩ ?_
      rintro u (listed | _)
      simp at listed
      obtain rfl | rfl := listed
      · exact portable_str (by decide)
      · exact portable_str (by decide)

/-- What that record is read as. -/
def listNode : Schema := {
  kind := .record, name := .str "Node", qualifier := some "a",
  fields := [{
    name := "next", hasDefault := true,
    type := {
      kind := .union,
      members := [
        { kind := .primitive, typeName := some "null" },
        { kind := .reference, typeName := some "a.Node" }] } }] }

theorem toJson_readsBack_listRecord :
    ofJson listRecord = .ok listNode ∧ ∃ w, toJson listNode = .ok w ∧ ofJson w = .ok listNode := by
  have h : ofJson listRecord = .ok listNode := by cbv
  exact ⟨h, toJson_readsBack portable_listRecord h⟩

end SchemaReview.Avro
