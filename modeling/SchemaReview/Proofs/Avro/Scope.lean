import SchemaReview.Proofs.Avro.Nameless
import SchemaReview.Proofs.Json.Member

/-!
# Names that are defined and names that are meant

A reading keeps the names that it has defined. When it comes to a node, these are the names of the
records, enums and fixed types before this node in the order of a walk, whatever records the node is
inside. So a whole reading is followed along two lists, the values that nodes are read from and the
nodes themselves: no name is defined twice, and what a reference means depends on its written name,
the namespace around it and the names before it.
-/
namespace SchemaReview.Avro

/-- Whether a node defines a name: a record, an enum and a fixed type do. -/
def isDefinition (s : Schema) : Bool :=
  s.kind == .record || s.kind == .enum || (s.kind == .primitive && s.typeName == some "fixed")

/-- The qualified names that nodes define. -/
def definedNames (nodes : List Schema) : List Json :=
  (nodes.filter isDefinition).map Schema.qualifiedName

/-- Whether a property holds at every node of a list, after the names that are defined before it. -/
def HoldsAlong {α : Type} (P : List Json → α → Schema → Prop) (D : List Json) :
    List (α × Schema) → Prop
  | [] => True
  | (a, n) :: rest => P D a n ∧ HoldsAlong P (D ++ definedNames [n]) rest

section

variable {α : Type} {P : List Json → α → Schema → Prop} {D : List Json}

theorem definedNames_append (ns ms : List Schema) :
    definedNames (ns ++ ms) = definedNames ns ++ definedNames ms := by
  unfold definedNames
  rw [List.filter_append, List.map_append]

theorem definedNames_cons (n : Schema) (ns : List Schema) :
    definedNames (n :: ns) = definedNames [n] ++ definedNames ns :=
  definedNames_append [n] ns

theorem holdsAlong_append {xs ys : List (α × Schema)} :
    HoldsAlong P D (xs ++ ys) ↔
      HoldsAlong P D xs ∧ HoldsAlong P (D ++ definedNames (xs.map Prod.snd)) ys := by
  induction xs generalizing D with
  | nil => simp [HoldsAlong, definedNames]
  | cons x xs ih =>
    obtain ⟨a, n⟩ := x
    rw [List.cons_append, HoldsAlong, HoldsAlong, ih, List.map_cons,
      definedNames_cons n (xs.map Prod.snd), List.append_assoc, and_assoc]

/-- What holds along a list holds at each of its positions. -/
theorem holdsAlong_iff {xs : List (α × Schema)} : HoldsAlong P D xs ↔
    ∀ i a n, xs[i]? = some (a, n) → P (D ++ definedNames ((xs.map Prod.snd).take i)) a n := by
  induction xs generalizing D with
  | nil => simp [HoldsAlong]
  | cons x xs ih =>
    obtain ⟨b, m⟩ := x
    rw [HoldsAlong, ih]
    constructor
    · rintro ⟨here, later⟩ i a n found
      cases i with
      | zero =>
        obtain ⟨rfl, rfl⟩ := Prod.mk.inj (Option.some.inj found)
        simpa [definedNames] using here
      | succ i =>
        rw [List.map_cons, List.take_succ_cons, definedNames_cons, ← List.append_assoc]
        exact later i a n found
    · intro each
      refine ⟨by simpa [definedNames] using each 0 b m rfl, fun i a n found => ?_⟩
      have next := each (i + 1) a n found
      rwa [List.map_cons, List.take_succ_cons, definedNames_cons, ← List.append_assoc] at next

end

/-! ### What is written -/

theorem flatMap_attach {α β : Type} (xs : List α) (f : α → List β) :
    xs.attach.flatMap (fun x => f x.1) = xs.flatMap f := by
  rw [← List.flatMap_map Subtype.val f, List.attach_map_subtype_val]

theorem sizeOf_lt_of_mem_parts {v part : Json} (h : part ∈ parts v) : sizeOf part < sizeOf v := by
  unfold parts at h
  split at h
  · rename_i items
    have listed := List.sizeOf_lt_of_mem h
    rw [Json.arr.sizeOf_spec]
    omega
  · rename_i members
    rw [Json.obj.sizeOf_spec]
    have below {key : String} {inner : Json} (found : Json.member? members key = some inner)
        (h : sizeOf part ≤ sizeOf inner) : sizeOf part < 1 + sizeOf members := by
      have smaller := Json.sizeOf_lt_of_member? found
      omega
    split at h
    · rename_i type
      exact below type (congrArg sizeOf (List.mem_singleton.mp h)).le
    · rename_i type
      exact below type (congrArg sizeOf (List.mem_singleton.mp h)).le
    · split at h
      · exact below (Option.mem_toList.mp h) le_rfl
      split at h
      · exact below (Option.mem_toList.mp h) le_rfl
      split at h
      · split at h
        · rename_i items listed
          obtain ⟨item, hi, typed⟩ := List.mem_filterMap.mp h
          have smaller := List.sizeOf_lt_of_mem hi
          refine below listed ?_
          unfold fieldType? at typed
          split at typed
          · have inner := Json.sizeOf_lt_of_member? typed
            rw [Json.obj.sizeOf_spec] at smaller
            rw [Json.arr.sizeOf_spec]
            omega
          · cases typed
        · cases h
      · cases h
    · cases h
  · cases h

/-- Induction over the values that are read inside a value. -/
theorem parts_induction {P : Json → Prop} (step : ∀ v, (∀ part ∈ parts v, P part) → P v)
    (v : Json) : P v :=
  step v fun part _ => parts_induction step part
termination_by sizeOf v
decreasing_by exact sizeOf_lt_of_mem_parts ‹_›

/-- Whether a value is an object that another schema is wrapped in. -/
def isWrapper : Json → Bool
  | .obj members =>
    match Json.member? members "type" with
    | some (.obj _) | some (.arr _) => true
    | _ => false
  | _ => false

/-- The namespace that the declaration of a type gives it. -/
def declaredSpace (members : List (String × Json)) (q : Option String) : Option String :=
  match Json.memberOrNull members "name", Json.memberOrNull members "namespace" with
  | .str name, .str r => (splitName name (if r = "" then q else some r)).2
  | .str name, _ => (splitName name q).2
  | _, _ => q

/-- The namespace inside a value: that of the type, if the value declares a record. -/
def spaceInside (q : Option String) : Json → Option String
  | .obj members =>
    match Json.member? members "type" with
    | some (.str word) => if word = "record" ∨ word = "error" then declaredSpace members q else q
    | _ => q
  | _ => q

/-- The values that the nodes of a schema are read from, in the order of a walk, each with the
namespace around it. -/
def sources (q : Option String) (v : Json) : List (Option String × Json) :=
  let inside := (parts v).attach.flatMap fun part => sources (spaceInside q v) part.1
  if isWrapper v then inside else (q, v) :: inside
termination_by sizeOf v
decreasing_by exact sizeOf_lt_of_mem_parts part.2

/-- The type name that a value consists of. -/
def writtenName? : Json → Option String
  | .str name => some name
  | .obj members =>
    match Json.member? members "type" with
    | some (.str word) => some word
    | _ => none
  | _ => none

theorem sources_eq (q : Option String) (v : Json) : sources q v =
    if isWrapper v then (parts v).flatMap (sources (spaceInside q v))
    else (q, v) :: (parts v).flatMap (sources (spaceInside q v)) := by
  rw [sources, flatMap_attach]

/-! ### What a name means -/

/-- A written name with the namespace around it, unless it has one of its own. -/
def spelledOut (name : String) (q : Option String) : String :=
  if IsPlain name then qualify name q else name

/-- Whether a written name means a type: a name of the namespace around it if there is one among the
names defined so far, and otherwise the name as it is written. -/
structure Means (D : List Json) (q : Option String) (name target : String) : Prop where
  qualified : .str (spelledOut name q) ∈ D → target = spelledOut name q
  asWritten : .str (spelledOut name q) ∉ D → .str name ∈ D → target = name

/-- The names that are defined, the first one first. -/
def names (D : Definitions) : List Json := (D.map (Json.ofOption .str)).reverse

/-- Whether no name that is defined consists of a dot and a plain name. -/
def IsRegular (D : Definitions) : Prop :=
  ∀ full ∈ D, ∀ short, full = some ("" ++ "." ++ short) → ¬ IsPlain short

section

variable {q own : Option String} {D : Definitions} {name full : String}
  {members : List (String × Json)}

theorem ofOption_str_injective : Function.Injective (Json.ofOption Json.str) := by
  intro a b h
  cases a <;> cases b <;> simp_all [Json.ofOption]

theorem mem_names {entry : Option String} : Json.ofOption .str entry ∈ names D ↔ entry ∈ D := by
  rw [names, List.mem_reverse, List.mem_map_of_injective ofOption_str_injective]

theorem str_mem_names : .str full ∈ names D ↔ some full ∈ D := by
  show Json.ofOption .str (some full) ∈ names D ↔ _
  exact mem_names

theorem names_cons (entry : Option String) (D : Definitions) :
    names (entry :: D) = names D ++ [Json.ofOption .str entry] := by
  unfold names
  rw [List.map_cons, List.reverse_cons]

theorem Declares.declaredSpace (declared : Declares members q name own) :
    declaredSpace members q = own := by
  obtain ⟨written, named, -, ⟨absent, split⟩ | ⟨r, space, split⟩⟩ := declared
  · unfold Avro.declaredSpace
    rw [named, absent]
    dsimp only
    rw [split]
  · unfold Avro.declaredSpace
    rw [named, space]
    dsimp only
    rw [split]

theorem isRegular_nil : IsRegular [] := nofun

theorem IsRegular.define (h : IsRegular D) (plain : IsPlain name) (space : own ≠ some "") :
    IsRegular (fullName name own :: D) := by
  intro entry listed short same plain'
  obtain rfl | listed := List.mem_cons.mp listed
  · unfold fullName qualify at same
    split at same
    · cases same
    have text := Option.some.inj same
    split at text
    · rename_i r
      split at text
      · rename_i empty
        exact space (congrArg some empty)
      · rename_i nonempty
        exact nonempty (dotted_injective plain plain' text).1
    · rw [text] at plain
      exact not_plain_dotted "" short plain
  · exact h entry listed short same plain'

/-- A reference has the name that its written name means. -/
theorem means_referenceName (h : IsRegular D) (q : Option String) (name : String) :
    Means (names D) q name (referenceName name q D) := by
  obtain ⟨plain, split⟩ | ⟨space, short, rfl, plain, split⟩ := splitName_cases name q
  · have spelled : spelledOut name q = qualify name q := if_pos plain
    constructor
    · rw [spelled, str_mem_names]
      intro found
      simp [referenceName, split, found]
    · rw [spelled, str_mem_names, str_mem_names]
      intro missing found
      simp [referenceName, split, missing, found]
  · have spelled : spelledOut (space ++ "." ++ short) q = space ++ "." ++ short :=
      if_neg (not_plain_dotted space short)
    by_cases empty : space = ""
    · have missing : some (space ++ "." ++ short) ∉ D := by
        intro found
        subst empty
        exact h _ found short rfl plain
      constructor
      · rw [spelled, str_mem_names]
        exact fun found => absurd found missing
      · rw [str_mem_names, str_mem_names]
        exact fun _ found => absurd found missing
    · have same : referenceName (space ++ "." ++ short) q D = space ++ "." ++ short := by
        simp [referenceName, split, empty, qualify]
      rw [same]
      exact ⟨fun _ => spelled.symm, fun _ _ => rfl⟩

end

/-! ### What a reading defines and what it refers to -/

/-- What a node is that is read from a value inside a namespace, after some names are defined. -/
structure IsBuilt (D : List Json) (source : Option String × Json) (s : Schema) : Prop where
  new : isDefinition s = true → s.qualifiedName ∉ D
  refers : s.kind = .reference → ∃ name target, writtenName? source.2 = some name ∧
    s.typeName = some target ∧ Means D source.1 name target

/-- Whether nodes are built one after another from as many values, and what is defined then. -/
structure BuildsAlong (D : Definitions) (values : List (Option String × Json))
    (nodes : List Schema) (D' : Definitions) : Prop where
  built : ∃ pairs : List ((Option String × Json) × Schema), pairs.map Prod.fst = values ∧
    pairs.map Prod.snd = nodes ∧ HoldsAlong IsBuilt (names D) pairs
  names : names D' = names D ++ definedNames nodes
  regular : IsRegular D'

section

variable {q own : Option String} {D D₁ D' : Definitions} {name word : String} {v : Json}
  {s : Schema} {members : List (String × Json)}

namespace BuildsAlong

variable {as bs : List (Option String × Json)} {ns ms : List Schema}

theorem nil (h : IsRegular D) : BuildsAlong D [] [] D where
  built := ⟨[], rfl, rfl, trivial⟩
  names := (List.append_nil _).symm
  regular := h

theorem append (first : BuildsAlong D as ns D₁) (rest : BuildsAlong D₁ bs ms D') :
    BuildsAlong D (as ++ bs) (ns ++ ms) D' := by
  obtain ⟨⟨xs, rfl, rfl, along⟩, defined, -⟩ := first
  obtain ⟨⟨ys, rfl, rfl, later⟩, defined', regular⟩ := rest
  rw [defined] at later defined'
  refine ⟨⟨xs ++ ys, List.map_append, List.map_append, holdsAlong_append.mpr ⟨along, later⟩⟩, ?_,
    regular⟩
  rw [defined', definedNames_append, List.append_assoc]

theorem cons (built : IsBuilt (Avro.names D) (q, v) s)
    (defined : Avro.names D₁ = Avro.names D ++ definedNames [s]) (rest : BuildsAlong D₁ as ns D') :
    BuildsAlong D ((q, v) :: as) (s :: ns) D' := by
  obtain ⟨⟨ys, rfl, rfl, later⟩, defined', regular⟩ := rest
  rw [defined] at later defined'
  refine ⟨⟨((q, v), s) :: ys, rfl, rfl, built, later⟩, ?_, regular⟩
  rw [defined', definedNames_cons s (ys.map Prod.snd), List.append_assoc]

/-- A node that defines nothing and refers to nothing, and what is below it. -/
theorem cons_other (simple : isDefinition s = false) (other : s.kind ≠ .reference)
    (rest : BuildsAlong D as ns D') : BuildsAlong D ((q, v) :: as) (s :: ns) D' := by
  refine .cons ⟨fun defines => ?_, fun refers => absurd refers other⟩ ?_ rest
  · rw [simple] at defines
    cases defines
  · simp [definedNames, simple]

end BuildsAlong

theorem qualifiedName_eq (hs : s.name = .str name) (hq : s.qualifier = own)
    (space : own ≠ some "") : s.qualifiedName = Json.ofOption .str (fullName name own) := by
  unfold Schema.qualifiedName fullName qualify
  rw [hs, hq]
  by_cases empty : name = ""
  · simp [empty, Json.isTruthy, Json.ofOption]
  · cases own with
    | none => simp [empty, Json.isTruthy, Json.ofOption]
    | some r =>
      have nonempty : r ≠ "" := fun same => space (congrArg some same)
      simp [empty, nonempty, Json.isTruthy, Json.ofOption, Json.toText_str]

/-- A node that defines a name that is not defined yet, and what is below it. -/
theorem BuildsAlong.cons_definition {as : List (Option String × Json)} {ns : List Schema}
    (defines : isDefinition s = true) (other : s.kind ≠ .reference)
    (full : s.qualifiedName = Json.ofOption .str (fullName name own)) (new : fullName name own ∉ D)
    (rest : BuildsAlong (fullName name own :: D) as ns D') :
    BuildsAlong D ((q, v) :: as) (s :: ns) D' := by
  refine .cons ⟨fun _ found => new ?_, fun refers => absurd refers other⟩ ?_ rest
  · rwa [full, mem_names] at found
  · rw [names_cons, ← full]
    simp [definedNames, defines]

theorem buildsAlong_namedType (h : IsRegular D) (written : writtenName? v = some name) :
    BuildsAlong D [(q, v)] [namedType name q D] D := by
  unfold namedType
  split
  · rename_i known
    exact .cons_other (by simp [isDefinition, fixed_ne_of_primitive known]) nofun (.nil h)
  · refine .cons ⟨nofun, fun _ => ?_⟩ (List.append_nil _).symm (.nil h)
    exact ⟨name, _, written, rfl, means_referenceName h q name⟩

end

/-! ### The whole of a reading -/

section

variable {q own : Option String} {name word : String} {members : List (String × Json)}

theorem sources_str : sources q (.str name) = [(q, .str name)] := by
  rw [sources_eq]
  rfl

theorem sources_arr (items : List Json) :
    sources q (.arr items) = (q, .arr items) :: items.flatMap (sources q) := by
  rw [sources_eq]
  rfl

theorem sources_wrapped {inner : Json} (type : Json.member? members "type" = some inner)
    (nested : IsNested inner) : sources q (.obj members) = sources q inner := by
  rw [sources_eq]
  cases inner with
  | obj | arr => simp [isWrapper, parts, spaceInside, type]
  | _ => exact nested.elim

theorem sources_word (type : Json.member? members "type" = some (.str word)) :
    sources q (.obj members) = (q, .obj members) ::
      (parts (.obj members)).flatMap (sources (spaceInside q (.obj members))) := by
  rw [sources_eq]
  simp [isWrapper, type]

theorem sources_leaf (type : Json.member? members "type" = some (.str word))
    (leaf : parts (.obj members) = []) : sources q (.obj members) = [(q, .obj members)] := by
  rw [sources_word type, leaf]
  rfl

theorem sources_array {items : Json} (type : Json.member? members "type" = some (.str "array"))
    (present : Json.member? members "items" = some items) :
    sources q (.obj members) = (q, .obj members) :: sources q items := by
  rw [sources_word type]
  simp [parts, spaceInside, type, present]

theorem sources_map {values : Json} (type : Json.member? members "type" = some (.str "map"))
    (present : Json.member? members "values" = some values) :
    sources q (.obj members) = (q, .obj members) :: sources q values := by
  rw [sources_word type]
  simp [parts, spaceInside, type, present]

theorem sources_record {items : List Json} (type : Json.member? members "type" = some (.str word))
    (known : word = "record" ∨ word = "error") (declared : Declares members q name own)
    (listed : Json.member? members "fields" = some (.arr items)) :
    sources q (.obj members) =
      (q, .obj members) :: (items.filterMap fieldType?).flatMap (sources own) := by
  have inside : spaceInside q (.obj members) = own := by
    simp [spaceInside, type, known, declared.declaredSpace]
  rw [sources_word type, parts_record type known listed, inside]

end

mutual

/-- A reading builds its nodes in the order of a walk. -/
theorem buildsAlong_of_reads {q : Option String} {D D' : Definitions} {v : Json} {s : Schema}
    (hq : q ≠ some "") (regular : IsRegular D) (h : Reads q D v s D') :
    BuildsAlong D (sources q v) s.nodes D' := by
  match h with
  | .name name =>
    rw [sources_str, Schema.nodes_eq, (bare_namedType name q D).2.1]
    exact buildsAlong_namedType regular rfl
  | .union nonempty read =>
    rw [sources_arr, Schema.nodes_eq]
    exact .cons_other rfl nofun (buildsAlong_of_readsMembers hq regular read)
  | .wrapped type nested read =>
    rw [sources_wrapped type nested]
    exact buildsAlong_of_reads hq regular read
  | .primitive type known =>
    have simple := mt complexWord_not_primitive (not_not.mpr known)
    rw [sources_leaf type (parts_of_simple type simple), Schema.nodes_eq]
    exact .cons_other (by simp [isDefinition, fixed_ne_of_primitive known]) nofun (.nil regular)
  | .reference type simple unknown =>
    rw [sources_leaf type (parts_of_simple type simple), Schema.nodes_eq,
      (bare_namedType _ q D).2.1]
    exact buildsAlong_namedType regular (by simp [writtenName?, type])
  | .array type present read =>
    rw [sources_array type present, Schema.nodes_eq]
    refine .cons_other rfl nofun ?_
    simpa [Schema.children] using buildsAlong_of_reads hq regular read
  | .map type present read =>
    rw [sources_map type present, Schema.nodes_eq]
    refine .cons_other rfl nofun ?_
    simpa [Schema.children] using buildsAlong_of_reads hq regular read
  | .enum type declared listed texts distinct new =>
    rw [sources_leaf type (by simp [parts, type]), Schema.nodes_eq]
    have space := declared.space_ne_empty hq
    exact .cons_definition rfl nofun (qualifiedName_eq rfl rfl space) new
      (.nil (regular.define declared.plain space))
  | .fixed type declared sized new =>
    rw [sources_leaf type (by simp [parts, type]), Schema.nodes_eq]
    have space := declared.space_ne_empty hq
    exact .cons_definition rfl nofun (qualifiedName_eq rfl rfl space) new
      (.nil (regular.define declared.plain space))
  | .record type known declared listed new read =>
    rw [sources_record type known declared listed, Schema.nodes_eq]
    have space := declared.space_ne_empty hq
    exact .cons_definition rfl nofun (qualifiedName_eq rfl rfl space) new
      (buildsAlong_of_readsFields space (regular.define declared.plain space) read)

theorem buildsAlong_of_readsMembers {q : Option String} {D D' : Definitions} {items : List Json}
    {members : List Schema} (hq : q ≠ some "") (regular : IsRegular D)
    (h : ReadsMembers q D items members D') :
    BuildsAlong D (items.flatMap (sources q)) (members.flatMap Schema.nodes) D' := by
  match h with
  | .nil => exact .nil regular
  | .cons first others =>
    have head := buildsAlong_of_reads hq regular first
    exact head.append (buildsAlong_of_readsMembers hq head.regular others)

theorem buildsAlong_of_readsFields {q : Option String} {D D' : Definitions} {seen : List String}
    {items : List Json} {fields : List Field} (hq : q ≠ some "") (regular : IsRegular D)
    (h : ReadsFields q D seen items fields D') :
    BuildsAlong D ((items.filterMap fieldType?).flatMap (sources q))
      ((fields.map FieldOf.type).flatMap Schema.nodes) D' := by
  match h with
  | .nil => exact .nil regular
  | @ReadsFields.cons _ _ _ _ _ _ members type _ _ _ named nonempty typed new first others =>
    have written : fieldType? (.obj members) = some type := typed
    have head := buildsAlong_of_reads hq regular first
    rw [List.filterMap_cons_some written, List.flatMap_cons]
    exact head.append (buildsAlong_of_readsFields hq head.regular others)

end

/-- The names that nodes define one after another, none of which is defined twice. -/
theorem nodup_definedNames_of_holdsAlong {α : Type} {P : List Json → α → Schema → Prop}
    {D : List Json} {xs : List (α × Schema)} (distinct : D.Nodup) (h : HoldsAlong P D xs)
    (new : ∀ D a s, P D a s → isDefinition s = true → s.qualifiedName ∉ D) :
    (D ++ definedNames (xs.map Prod.snd)).Nodup := by
  induction xs generalizing D with
  | nil => simpa [definedNames] using distinct
  | cons x xs ih =>
    obtain ⟨a, s⟩ := x
    obtain ⟨here, later⟩ := h
    have next : (D ++ definedNames [s]).Nodup := by
      by_cases defines : isDefinition s
      · have single : definedNames [s] = [s.qualifiedName] := by simp [definedNames, defines]
        rw [single, List.nodup_append]
        refine ⟨distinct, List.nodup_singleton _, fun other listed name named same => ?_⟩
        rw [same, List.mem_singleton.mp named] at listed
        exact new D a s here defines listed
      · simpa [definedNames, defines] using distinct
    rw [List.map_cons, definedNames_cons s (xs.map Prod.snd), ← List.append_assoc]
    exact ih next later

/-- No two types of an accepted schema have the same qualified name, and each reference has the name
that its written name means, in the namespace around it and after the types before it. -/
theorem names_of_ofJson {v : Json} {s : Schema} (h : ofJson v = .ok s) :
    (definedNames s.nodes).Nodup ∧ (sources none v).length = s.nodes.length ∧
      ∀ i q value node, (sources none v)[i]? = some (q, value) → s.nodes[i]? = some node →
        node.kind = .reference → ∃ name target, writtenName? value = some name ∧
          node.typeName = some target ∧ Means (definedNames (s.nodes.take i)) q name target := by
  obtain ⟨D, read⟩ := ofJson_eq_ok.mp h
  obtain ⟨⟨pairs, values, nodes, along⟩, -, -⟩ :=
    buildsAlong_of_reads (by simp) isRegular_nil read
  rw [← values, ← nodes]
  refine ⟨?_, by rw [List.length_map, List.length_map], ?_⟩
  · have distinct := nodup_definedNames_of_holdsAlong List.nodup_nil along
      fun _ _ _ built => built.new
    simpa using distinct
  · intro i q value node written built
    rw [List.getElem?_map, Option.map_eq_some_iff] at written built
    obtain ⟨⟨source, n⟩, found, rfl⟩ := written
    obtain ⟨pair, again, rfl⟩ := built
    obtain rfl := Option.some.inj (found.symm.trans again)
    exact (holdsAlong_iff.mp along i _ _ found).refers

/-- A record in a namespace that refers to itself and to an enum that is in none. -/
def mixedRecord : Json :=
  .obj [("type", .str "record"), ("name", .str "a.R"), ("fields", .arr [
    .obj [("name", .str "x"), ("type", .obj [("type", .str "enum"), ("name", .str ".E"),
      ("symbols", .arr [])])],
    .obj [("name", .str "y"), ("type", .str "R")],
    .obj [("name", .str "z"), ("type", .str "E")]])]

/-- What that record is read as. -/
def mixedNode : Schema := {
  kind := .record, name := .str "R", qualifier := some "a",
  fields := [
    { name := "x", type := { kind := .enum, name := .str "E" } },
    { name := "y", type := { kind := .reference, typeName := some "a.R" } },
    { name := "z", type := { kind := .reference, typeName := some "E" } }] }

theorem names_of_ofJson_mixed :
    ofJson mixedRecord = .ok mixedNode ∧ (definedNames mixedNode.nodes).Nodup ∧
      Means [.str "a.R", .str "E"] (some "a") "R" "a.R" ∧
      Means [.str "a.R", .str "E"] (some "a") "E" "E" := by
  have h : ofJson mixedRecord = .ok mixedNode := by cbv
  obtain ⟨distinct, -, means⟩ := names_of_ofJson h
  have before : definedNames (mixedNode.nodes.take 2) = [.str "a.R", .str "E"] := rfl
  have later : definedNames (mixedNode.nodes.take 3) = [.str "a.R", .str "E"] := rfl
  refine ⟨h, distinct, ?_, ?_⟩
  · obtain ⟨name, target, written, built, meant⟩ :=
      means 2 (some "a") (.str "R") { kind := .reference, typeName := some "a.R" } (by cbv) rfl rfl
    cases written
    cases built
    rwa [before] at meant
  · obtain ⟨name, target, written, built, meant⟩ :=
      means 3 (some "a") (.str "E") { kind := .reference, typeName := some "E" } (by cbv) rfl rfl
    cases written
    cases built
    rwa [later] at meant

end SchemaReview.Avro
