import SchemaReview.Proofs.Avro.RoundTrip
import SchemaReview.Proofs.Avro.Scope
import SchemaReview.Proofs.Parse.Outcome

/-!
# Which identities are kept when a schema is written

The identity of a node is its kind with the name that it defines or refers to. A written schema
holds the name that a reference was resolved to and the namespace of a type that has one. Read
again, such a name is resolved once more, and a type without a namespace takes the one around it. So
identities are kept exactly if this changes nothing at any node, and the induction over a reading
follows both directions at once: up to the first node that changes, the names before it are the same
as in the first reading.
-/
namespace SchemaReview.Avro

/-- The kind of a node, the name that it defines and the name that it refers to. -/
def identity (s : Schema) : Kind × Json × Option String :=
  (s.kind, s.qualifiedName, if s.kind = .reference then s.typeName else none)

/-- The identities of the nodes of a tree in the order of a walk. -/
def identities (s : Schema) : List (Kind × Json × Option String) := s.nodes.map identity

/-- The namespace around what is below a node. -/
def spaceWithin (q : Option String) (s : Schema) : Option String :=
  if s.kind = .record then s.qualifier else q

/-- The nodes of a tree in the order of a walk, each with the namespace around it. -/
def placedNodes (q : Option String) (s : Schema) : List (Option String × Schema) :=
  (q, s) :: s.children.attach.flatMap fun c => placedNodes (spaceWithin q s) c.1
termination_by sizeOf s
decreasing_by exact Schema.sizeOf_lt_of_mem_children c.2

/-- Whether a node keeps its identity when it is written and read again, after some names and inside
a namespace. -/
structure IsSettled (D : List Json) (q : Option String) (s : Schema) : Prop where
  named : isDefinition s = true → s.name ≠ .str ""
  placed : isDefinition s = true → s.qualifier = none → q = none
  resolved : s.kind = .reference → ∀ target, s.typeName = some target → target ∉ primitives ∧
    (IsPlain target → q = none ∨ .str (qualify target q) ∉ D ∧ .str target ∈ D)

theorem placedNodes_eq (q : Option String) (s : Schema) :
    placedNodes q s = (q, s) :: s.children.flatMap (placedNodes (spaceWithin q s)) := by
  rw [placedNodes, flatMap_attach]

theorem identities_eq (s : Schema) :
    identities s = identity s :: s.children.flatMap identities := by
  unfold identities
  rw [Schema.nodes_eq, List.map_cons, List.map_flatMap]

theorem map_snd_placedNodes (q : Option String) (s : Schema) :
    (placedNodes q s).map Prod.snd = s.nodes := by
  rw [placedNodes_eq, Schema.nodes_eq, List.map_cons, List.map_flatMap]
  refine congrArg _ (List.flatMap_congr fun c hc => ?_)
  have := Schema.sizeOf_lt_of_mem_children hc
  exact map_snd_placedNodes _ c
termination_by sizeOf s

theorem length_identities (s : Schema) : (identities s).length = s.nodes.length :=
  List.length_map ..

/-! ### Names that are read again -/

section

variable {q own : Option String} {D : Definitions} {name target : String}
  {members : List (String × Json)}

/-- A name that a reference was resolved to is resolved to itself, unless it is a plain name that
means another type around it. -/
theorem referenceName_again (hq : q ≠ some "") (h : referenceName name q D = target) :
    referenceName target q D = target ↔
      (IsPlain target → q = none ∨ .str (qualify target q) ∉ names D ∧ .str target ∈ names D) := by
  rw [str_mem_names, str_mem_names]
  by_cases plain : IsPlain target
  · rw [referenceName_of_plain plain hq]
    exact ⟨fun same _ => same, fun same => same plain⟩
  · exact iff_of_true (referenceName_of_dotted plain h) fun dotless => absurd dotless plain

/-- Only a namespace that is there changes the name of a type without one. -/
theorem fullName_or (plain : IsPlain name) (given : name ≠ "") (hq : q ≠ some "") :
    fullName name (own.or q) = fullName name own ↔ (own = none → q = none) := by
  cases own with
  | some r => simp
  | none =>
    cases q with
    | none => simp
    | some r =>
      have nonempty : r ≠ "" := fun same => hq (congrArg some same)
      simp only [Option.none_or, fullName, given, if_false, qualify, nonempty, Option.some.injEq,
        forall_const, reduceCtorEq, iff_false]
      exact dotted_ne_self _ plain

end

/-! ### Writing and reading again -/

/-- What happens to a node that is written inside a namespace and read again there: it keeps the
identities below it exactly if all nodes are settled, and then it leaves the same definitions. -/
structure Rereads (q : Option String) (D : Definitions) (s : Schema) (D' : Definitions)
    (w : Json) : Prop where
  written : toJson s = .ok w
  length : ∀ space, (sources space w).length = s.nodes.length
  keeps : HoldsAlong IsSettled (names D) (placedNodes q s) →
    ∃ again, Reads q D w again D' ∧ identities again = identities s
  settled : ∀ again D₂, Reads q D w again D₂ → identities again = identities s →
    HoldsAlong IsSettled (names D) (placedNodes q s) ∧ D₂ = D'

/-- The same of nodes that are written one after another. -/
structure RereadsAll (q : Option String) (D : Definitions) (nodes : List Schema) (D' : Definitions)
    (ws : List Json) : Prop where
  written : membersToJson nodes = .ok ws
  length : ∀ space, (ws.flatMap (sources space)).length = (nodes.flatMap Schema.nodes).length
  keeps : HoldsAlong IsSettled (names D) (nodes.flatMap (placedNodes q)) →
    ∃ again, ReadsMembers q D ws again D' ∧ again.flatMap identities = nodes.flatMap identities
  settled : ∀ again D₂, ReadsMembers q D ws again D₂ →
    again.flatMap identities = nodes.flatMap identities →
    HoldsAlong IsSettled (names D) (nodes.flatMap (placedNodes q)) ∧ D₂ = D'

section

variable {q own : Option String} {D D₁ D' : Definitions} {s : Schema} {w : Json}

/-- What happens to a node is decided by the node and by what happens to the nodes below it. -/
theorem Rereads.of_parts {q' : Option String} {D₀ : Definitions} {ws : List Json}
    (below : RereadsAll q' D₀ s.children D' ws) (written : toJson s = .ok w)
    (source : ∀ space, ∃ inner, sources space w = (space, w) :: ws.flatMap (sources inner))
    (inside : spaceWithin q s = q') (defined : names D ++ definedNames [s] = names D₀)
    (build : ∀ nodes, IsSettled (names D) q s → ReadsMembers q' D₀ ws nodes D' →
      ∃ again, Reads q D w again D' ∧ again.children = nodes ∧ identity again = identity s)
    (inverts : ∀ again D₂, Reads q D w again D₂ → identity again = identity s →
      IsSettled (names D) q s ∧ ReadsMembers q' D₀ ws again.children D₂) : Rereads q D s D' w := by
  have along : HoldsAlong IsSettled (names D) (placedNodes q s) ↔ IsSettled (names D) q s ∧
      HoldsAlong IsSettled (names D₀) (s.children.flatMap (placedNodes q')) := by
    rw [placedNodes_eq, inside, ← defined]
    rfl
  refine ⟨written, fun space => ?_, fun settled => ?_, fun again D₂ reads same => ?_⟩
  · obtain ⟨inner, values⟩ := source space
    rw [values, List.length_cons, below.length, Schema.nodes_eq, List.length_cons]
  · obtain ⟨here, later⟩ := along.mp settled
    obtain ⟨nodes, reads, same⟩ := below.keeps later
    obtain ⟨again, read, rfl, alike⟩ := build nodes here reads
    exact ⟨again, read, by rw [identities_eq, identities_eq, alike, same]⟩
  · rw [identities_eq, identities_eq] at same
    obtain ⟨alike, others⟩ := List.cons.inj same
    obtain ⟨here, reads⟩ := inverts again D₂ reads alike
    obtain ⟨later, rfl⟩ := below.settled _ D₂ reads others
    exact ⟨along.mpr ⟨here, later⟩, rfl⟩

theorem RereadsAll.nil : RereadsAll q D [] D [] where
  written := rfl
  length _ := rfl
  keeps _ := ⟨[], .nil, rfl⟩
  settled again D₂ reads _ := by
    cases reads
    exact ⟨trivial, rfl⟩

/-- A node without anything below it, read again as some such node. -/
theorem Rereads.of_leaf {again : Schema} (leaf : s.children = []) (other : spaceWithin q s = q)
    (simple : isDefinition s = false) (written : toJson s = .ok w)
    (source : ∀ space, sources space w = [(space, w)]) (read : Reads q D w again D)
    (bare : again.children = [])
    (same : identity again = identity s ↔ IsSettled (names D) q s) : Rereads q D s D w := by
  have below : RereadsAll q D s.children D [] := by
    rw [leaf]
    exact .nil
  refine .of_parts below written (fun space => ⟨space, source space⟩) other ?_
    (fun nodes settled reads => ?_) fun found D₂ reads alike => ?_
  · simp [definedNames, simple]
  · cases reads
    exact ⟨again, read, bare, same.mpr settled⟩
  · obtain ⟨rfl, rfl⟩ := reads_unique read reads
    rw [bare]
    exact ⟨same.mp alike, .nil⟩

/-- The number of nodes that are read again tells where the first node ends. -/
theorem RereadsAll.cons {nodes : List Schema} {ws : List Json} (hq : q ≠ some "")
    (regular : IsRegular D) (defined : names D₁ = names D ++ definedNames s.nodes)
    (first : Rereads q D s D₁ w) (rest : RereadsAll q D₁ nodes D' ws) :
    RereadsAll q D (s :: nodes) D' (w :: ws) := by
  have split : HoldsAlong IsSettled (names D) ((s :: nodes).flatMap (placedNodes q)) ↔
      HoldsAlong IsSettled (names D) (placedNodes q s) ∧
        HoldsAlong IsSettled (names D₁) (nodes.flatMap (placedNodes q)) := by
    rw [List.flatMap_cons, holdsAlong_append, map_snd_placedNodes, defined]
  refine ⟨?_, fun space => ?_, fun settled => ?_, fun again D₂ reads same => ?_⟩
  · rw [membersToJson, first.written, rest.written]
    rfl
  · rw [List.flatMap_cons, List.flatMap_cons, List.length_append, List.length_append,
      first.length, rest.length]
  · obtain ⟨head, tail⟩ := split.mp settled
    obtain ⟨a, reads, same⟩ := first.keeps head
    obtain ⟨as, later, others⟩ := rest.keeps tail
    refine ⟨a :: as, .cons reads later, ?_⟩
    rw [List.flatMap_cons, List.flatMap_cons, same, others]
  · cases reads with
    | @cons _ _ Dₐ _ _ _ a as reads later =>
      have along := buildsAlong_of_reads hq regular reads
      -- a node has as many nodes as its value has sources, so both lists are cut at one place
      have long : (identities a).length = (identities s).length := by
        obtain ⟨pairs, values, nodes, -⟩ := along.built
        rw [length_identities, length_identities, ← first.length q, ← values, ← nodes,
          List.length_map, List.length_map]
      rw [List.flatMap_cons, List.flatMap_cons] at same
      obtain ⟨same, others⟩ := List.append_inj same long
      obtain ⟨head, rfl⟩ := first.settled a _ reads same
      obtain ⟨tail, rfl⟩ := rest.settled as _ later others
      exact ⟨split.mpr ⟨head, tail⟩, rfl⟩

end

theorem rereadsAll_of_readsMembers {q : Option String} {D D' : Definitions} {items : List Json}
    {nodes : List Schema} (hq : q ≠ some "")
    (each : ∀ item ∈ items, ∀ D s D', IsRegular D → Reads q D item s D' →
      ∃ w, Rereads q D s D' w)
    (regular : IsRegular D) (h : ReadsMembers q D items nodes D') :
    ∃ ws, RereadsAll q D nodes D' ws := by
  induction items generalizing D nodes with
  | nil =>
    cases h
    exact ⟨[], .nil⟩
  | cons item rest ih =>
    rw [List.forall_mem_cons] at each
    cases h with
    | cons first others =>
      have along := buildsAlong_of_reads hq regular first
      obtain ⟨w, head⟩ := each.1 _ _ _ regular first
      obtain ⟨ws, tail⟩ := ih each.2 along.regular others
      exact ⟨w :: ws, .cons hq regular along.names head tail⟩

theorem length_of_membersToJson {nodes : List Schema} {ws : List Json}
    (h : membersToJson nodes = .ok ws) : ws.length = nodes.length := by
  induction nodes generalizing ws with
  | nil =>
    cases h
    rfl
  | cons s rest ih =>
    obtain ⟨w, -, h⟩ := bind_eq_ok.mp h
    obtain ⟨others, later, h⟩ := bind_eq_ok.mp h
    obtain rfl := pure_eq_ok.mp h
    rw [List.length_cons, List.length_cons, ih later]

/-! ### Fields -/

/-- The types of fields are read one after another. -/
theorem readsMembers_of_readsFields {q : Option String} {D D' : Definitions} {seen : List String}
    {items : List Json} {fields : List Field} (h : ReadsFields q D seen items fields D') :
    ReadsMembers q D (items.filterMap fieldType?) (fields.map FieldOf.type) D' := by
  induction items generalizing D seen fields with
  | nil =>
    cases h
    exact .nil
  | cons item rest ih =>
    cases h with
    | @cons _ _ D₁ _ _ _ members type _ _ _ named nonempty typed new first others =>
      have written : fieldType? (.obj members) = some type := typed
      rw [List.filterMap_cons_some written]
      exact .cons first (ih others)

/-- A field as it is written with its type. -/
def writtenField (f : Field) (w : Json) : Json :=
  .obj ([("name", .str f.name), ("type", w)] ++ Json.present "doc" f.documentation ++
    (if f.hasDefault then [("default", f.default)] else []))

section

variable {q own : Option String} {D D' : Definitions} {seen : List String} {fields : List Field}
  {ws : List Json} {nodes : List Schema}

theorem fieldsToJson_eq (written : membersToJson (fields.map FieldOf.type) = .ok ws) :
    fieldsToJson fields = .ok (List.zipWith writtenField fields ws) ∧
      (List.zipWith writtenField fields ws).filterMap fieldType? = ws := by
  induction fields generalizing ws with
  | nil =>
    cases written
    exact ⟨rfl, rfl⟩
  | cons f rest ih =>
    obtain ⟨w, first, written⟩ := bind_eq_ok.mp written
    obtain ⟨others, later, written⟩ := bind_eq_ok.mp written
    obtain rfl := pure_eq_ok.mp written
    obtain ⟨read, types⟩ := ih later
    constructor
    · rw [fieldsToJson, fieldToJson, first, read]
      rfl
    · have typed : fieldType? (writtenField f w) = some w := by
        simp [fieldType?, writtenField]
      rw [List.zipWith_cons_cons, List.filterMap_cons_some typed, types]

/-- Fields that are written are read again with their names. -/
theorem readsFields_written (named : ∀ f ∈ fields, f.name ≠ "") (new : ∀ f ∈ fields, f.name ∉ seen)
    (distinct : (fields.map FieldOf.name).Nodup)
    (h : ReadsMembers q D ws nodes D') (length : ws.length = fields.length) :
    ∃ again, again.map FieldOf.type = nodes ∧
      ReadsFields q D seen (List.zipWith writtenField fields ws) again D' := by
  induction fields generalizing D seen ws nodes with
  | nil =>
    obtain rfl := List.eq_nil_of_length_eq_zero length
    cases h
    exact ⟨[], rfl, .nil⟩
  | cons f rest ih =>
    cases h with
    | nil => cases length
    | @cons _ _ D₁ _ w ws s nodes first others =>
      rw [List.forall_mem_cons] at named new
      rw [List.map_cons, List.nodup_cons] at distinct
      have unseen : ∀ g ∈ rest, g.name ∉ f.name :: seen := by
        intro g hg listed
        obtain same | listed := List.mem_cons.mp listed
        · exact distinct.1 (same ▸ List.mem_map_of_mem hg)
        · exact new.2 g hg listed
      obtain ⟨again, types, read⟩ := ih named.2 unseen distinct.2 others (by simpa using length)
      have written : Json.memberOrNull ([("name", .str f.name), ("type", w)] ++
          Json.present "doc" f.documentation ++
          (if f.hasDefault then [("default", f.default)] else [])) "name" = .str f.name := by
        simp [Json.memberOrNull]
      refine ⟨_ :: again, ?_, .cons written named.1 (by simp) new.1 first read⟩
      rw [List.map_cons, types]

end

/-! ### The cases of a reading -/

section

variable {q own : Option String} {D D' : Definitions} {name word : String} {s : Schema}
  {members : List (String × Json)} {ws : List Json}

theorem isSettled_of_other {D : List Json} (simple : isDefinition s = false)
    (other : s.kind ≠ .reference) : IsSettled D q s := by
  refine ⟨fun defines => ?_, fun defines => ?_, fun refers => absurd refers other⟩
  · rw [simple] at defines
    cases defines
  · rw [simple] at defines
    cases defines

theorem isSettled_definition {D : List Json} (defines : isDefinition s = true)
    (other : s.kind ≠ .reference) (hs : s.name = .str name) (ho : s.qualifier = own) :
    IsSettled D q s ↔ name ≠ "" ∧ (own = none → q = none) := by
  constructor
  · rintro ⟨named, placed, -⟩
    rw [hs] at named
    rw [ho] at placed
    exact ⟨fun empty => named defines (congrArg _ empty), placed defines⟩
  · rintro ⟨named, placed⟩
    refine ⟨fun _ same => ?_, fun _ absent => placed (ho ▸ absent),
      fun refers => absurd refers other⟩
    rw [hs] at same
    exact named (Json.str.inj same)

theorem isSettled_reference {D : List Json} {target : String} :
    IsSettled D q { kind := .reference, typeName := some target } ↔ target ∉ primitives ∧
      (IsPlain target → q = none ∨ .str (qualify target q) ∉ D ∧ .str target ∈ D) := by
  constructor
  · rintro ⟨-, -, refers⟩
    exact refers rfl target rfl
  · intro apart
    have bare : ¬ isDefinition { kind := .reference, typeName := some target } = true := by
      simp [isDefinition]
    refine ⟨fun defines => absurd defines bare, fun defines => absurd defines bare,
      fun _ other same => ?_⟩
    obtain rfl := Option.some.inj same
    exact apart

/-- A primitive type loses attributes at most. -/
theorem rereads_primitive (q : Option String) (D : Definitions) (known : word ∈ primitives)
    (logical doc : Json) : ∃ w, Rereads q D {
      kind := .primitive, typeName := some word, logicalType := logical,
      documentation := doc } D w := by
  have fixed := fixed_ne_of_primitive known
  have simple : isDefinition {
      kind := .primitive, typeName := some word, logicalType := logical,
      documentation := doc } = false := by
    simp [isDefinition, fixed]
  have settled := isSettled_of_other (q := q) (D := names D) simple (by simp)
  by_cases shown : logical.isTruthy || doc.isTruthy
  · have written : toJson {
        kind := .primitive, typeName := some word, logicalType := logical,
        documentation := doc } = .ok (.obj ([("type", .str word)] ++
          Json.present "logicalType" logical ++ Json.present "doc" doc)) := by
      simp [toJson, fixed, shown, Json.ofOption]
    have type : Json.member? ([("type", .str word)] ++ Json.present "logicalType" logical ++
        Json.present "doc" doc) "type" = some (.str word) := by
      simp
    have leaf := parts_of_simple type (mt complexWord_not_primitive (not_not.mpr known))
    exact ⟨_, .of_leaf rfl rfl simple written (fun _ => sources_leaf type leaf)
      (.primitive type known) rfl (iff_of_true rfl settled)⟩
  · have written : toJson {
        kind := .primitive, typeName := some word, logicalType := logical,
        documentation := doc } = .ok (.str word) := by
      simp [toJson, fixed, shown, Json.ofOption]
    have read : namedType word q D = { kind := .primitive, typeName := some word } := if_pos known
    exact ⟨_, .of_leaf rfl rfl simple written (fun _ => sources_str)
      (reads_of_eq read (.name word)) rfl (iff_of_true rfl settled)⟩

theorem rereads_reference (hq : q ≠ some "") (name : String) : ∃ w, Rereads q D {
    kind := .reference, typeName := some (referenceName name q D) } D w := by
  have resolved : referenceName (referenceName name q D) q D = referenceName name q D ↔ _ :=
    referenceName_again hq rfl
  generalize referenceName name q D = target at resolved ⊢
  refine ⟨.str target, .of_leaf rfl rfl rfl rfl (fun _ => sources_str) (.name target)
    (bare_namedType target q D).2.1 ?_⟩
  rw [isSettled_reference, ← resolved]
  by_cases known : target ∈ primitives
  · refine iff_of_false (fun same => ?_) fun unknown => unknown.1 known
    rw [namedType, if_pos known] at same
    cases (Prod.mk.inj same).1
  · rw [namedType, if_neg known]
    constructor
    · intro same
      exact ⟨known, Option.some.inj (Prod.mk.inj (Prod.mk.inj same).2).2⟩
    · rintro ⟨-, same⟩
      rw [same]

theorem rereads_namedType (hq : q ≠ some "") (name : String) :
    ∃ w, Rereads q D (namedType name q D) D w := by
  unfold namedType
  split
  · rename_i known
    exact rereads_primitive q D known .null .null
  · exact rereads_reference hq name

/-- A node that defines nothing and refers to nothing loses no more than the nodes below it. -/
theorem rereads_other {w : Json} (simple : isDefinition s = false) (other : s.kind ≠ .reference)
    (below : RereadsAll q D s.children D' ws) (written : toJson s = .ok w)
    (source : ∀ space, sources space w = (space, w) :: ws.flatMap (sources space))
    (build : ∀ nodes, ReadsMembers q D ws nodes D' →
      ∃ again, Reads q D w again D' ∧ again.children = nodes ∧ identity again = identity s)
    (inverts : ∀ again D₂, Reads q D w again D₂ → ReadsMembers q D ws again.children D₂) :
    Rereads q D s D' w := by
  refine .of_parts below written (fun space => ⟨space, source space⟩) ?_ ?_
    (fun nodes _ => build nodes) fun again D₂ reads _ => ?_
  · refine if_neg fun record => ?_
    simp [isDefinition, record] at simple
  · simp [definedNames, simple]
  · exact ⟨isSettled_of_other simple other, inverts again D₂ reads⟩

theorem readsMembers_singleton {w : Json} {nodes : List Schema}
    (h : ReadsMembers q D [w] nodes D') : ∃ s, nodes = [s] ∧ Reads q D w s D' := by
  cases h with
  | cons first others =>
    cases others
    exact ⟨_, rfl, first⟩

theorem rereads_union {nodes : List Schema} (nonempty : nodes ≠ [])
    (below : RereadsAll q D nodes D' ws) :
    Rereads q D { kind := .union, members := nodes } D' (.arr ws) := by
  have listed : ws ≠ [] := by
    rw [← List.length_pos_iff, length_of_membersToJson below.written]
    exact List.length_pos_iff.mpr nonempty
  refine rereads_other rfl (by simp) below ?_ (fun space => sources_arr ws)
    (fun nodes reads => ?_) fun again D₂ reads => ?_
  · rw [toJson, below.written]
    rfl
  · exact ⟨_, .union listed reads, rfl, rfl⟩
  · cases reads with
    | union _ read => exact read

theorem rereads_array {w : Json} (hq : q ≠ some "") (regular : IsRegular D) (doc : Json)
    (defined : names D' = names D ++ definedNames s.nodes) (inner : Rereads q D s D' w) :
    ∃ v, Rereads q D { kind := .array, items := some s, documentation := doc } D' v := by
  have below : RereadsAll q D [s] D' [w] := .cons hq regular defined inner .nil
  have type : Json.member? ([("type", .str "array"), ("items", w)] ++ Json.present "doc" doc)
      "type" = some (.str "array") := by
    simp
  have present : Json.member? ([("type", .str "array"), ("items", w)] ++ Json.present "doc" doc)
      "items" = some w := by
    simp
  refine ⟨_, rereads_other rfl (by simp) below (by rw [toJson, innerToJson, inner.written]; rfl)
    (fun space => ?_) (fun nodes reads => ?_) fun again D₂ reads => ?_⟩
  · rw [sources_array type present, List.flatMap_singleton]
  · obtain ⟨t, rfl, read⟩ := readsMembers_singleton reads
    exact ⟨_, .array type present read, rfl, rfl⟩
  · obtain ⟨t, read, rfl⟩ := of_reads_array type present reads
    exact .cons read .nil

theorem rereads_map {w : Json} (hq : q ≠ some "") (regular : IsRegular D) (doc : Json)
    (defined : names D' = names D ++ definedNames s.nodes) (inner : Rereads q D s D' w) :
    ∃ v, Rereads q D { kind := .map, values := some s, documentation := doc } D' v := by
  have below : RereadsAll q D [s] D' [w] := .cons hq regular defined inner .nil
  have type : Json.member? ([("type", .str "map"), ("values", w)] ++ Json.present "doc" doc)
      "type" = some (.str "map") := by
    simp
  have present : Json.member? ([("type", .str "map"), ("values", w)] ++ Json.present "doc" doc)
      "values" = some w := by
    simp
  refine ⟨_, rereads_other rfl (by simp) below (by rw [toJson, innerToJson, inner.written]; rfl)
    (fun space => ?_) (fun nodes reads => ?_) fun again D₂ reads => ?_⟩
  · rw [sources_map type present, List.flatMap_singleton]
  · obtain ⟨t, rfl, read⟩ := readsMembers_singleton reads
    exact ⟨_, .map type present read, rfl, rfl⟩
  · obtain ⟨t, read, rfl⟩ := of_reads_map type present reads
    exact .cons read .nil

/-- A declaration that is read again under the same name is settled. -/
theorem declares_again {short : String} {space : Option String} (plain : IsPlain name)
    (nonempty : own ≠ some "") (hq : q ≠ some "")
    (named : Json.memberOrNull members "name" = .str name)
    (placed : Json.memberOrNull members "namespace" = Json.ofOption .str own)
    (declared : Declares members q short space)
    (same : fullName short space = fullName name own) :
    IsWritable q name own ∧ short = name ∧ space = own := by
  obtain ⟨given, rfl, rfl⟩ := (declares_written plain nonempty named placed).mp declared
  have outer := (fullName_or plain given hq).mp same
  refine ⟨⟨plain, given, nonempty, outer⟩, rfl, ?_⟩
  cases own with
  | none => exact outer rfl
  | some r => rfl

/-- A node that defines a name is settled if it keeps the name, and then the nodes below it are read
after the same names. -/
theorem rereads_definition {q' : Option String} (hq : q ≠ some "") (plain : IsPlain name)
    (nonempty : own ≠ some "") (defines : isDefinition s = true) (other : s.kind ≠ .reference)
    (hs : s.name = .str name) (ho : s.qualifier = own)
    (below : RereadsAll q' (fullName name own :: D) s.children D' ws)
    (written : toJson s = .ok (.obj members))
    (named : Json.memberOrNull members "name" = .str name)
    (placed : Json.memberOrNull members "namespace" = Json.ofOption .str own)
    (source : ∀ space, ∃ inner,
      sources space (.obj members) = (space, .obj members) :: ws.flatMap (sources inner))
    (inside : spaceWithin q s = q')
    (build : IsWritable q name own → ∀ nodes,
      ReadsMembers q' (fullName name own :: D) ws nodes D' →
      ∃ again, Reads q D (.obj members) again D' ∧ again.children = nodes ∧
        identity again = identity s)
    (inverts : ∀ again D₂, Reads q D (.obj members) again D₂ → ∃ short space,
      Declares members q short space ∧ again.name = .str short ∧ again.qualifier = space ∧
        (short = name → space = own →
          ReadsMembers q' (fullName name own :: D) ws again.children D₂)) :
    Rereads q D s D' (.obj members) := by
  have full := qualifiedName_eq hs ho nonempty
  have settled := isSettled_definition (q := q) (D := names D) defines other hs ho
  refine .of_parts below written source inside ?_ (fun nodes here reads => ?_)
    fun again D₂ reads same => ?_
  · rw [names_cons, ← full]
    simp [definedNames, defines]
  · obtain ⟨given, outer⟩ := settled.mp here
    exact build ⟨plain, given, nonempty, outer⟩ nodes reads
  · -- the name that is read is the written one, so what is below is read after the same names
    obtain ⟨short, space, declared, hs', ho', read⟩ := inverts again D₂ reads
    have kept := qualifiedName_eq hs' ho' (declared.space_ne_empty hq)
    rw [(Prod.mk.inj (Prod.mk.inj same).2).1, full] at kept
    obtain ⟨writable, rfl, rfl⟩ := declares_again plain nonempty hq named placed declared
      (ofOption_str_injective kept).symm
    exact ⟨settled.mpr ⟨writable.nonempty, writable.outer⟩, read rfl rfl⟩

/-- A node that defines a name and has nothing below it. -/
theorem rereads_leafDefinition (hq : q ≠ some "") (plain : IsPlain name) (nonempty : own ≠ some "")
    (defines : isDefinition s = true) (other : s.kind ≠ .reference) (leaf : s.children = [])
    (hs : s.name = .str name) (ho : s.qualifier = own) (inside : spaceWithin q s = q)
    (written : toJson s = .ok (.obj members))
    (type : Json.member? members "type" = some (.str word)) (bare : parts (.obj members) = [])
    (named : Json.memberOrNull members "name" = .str name)
    (placed : Json.memberOrNull members "namespace" = Json.ofOption .str own)
    (build : IsWritable q name own → RoundTrips q D s (fullName name own :: D))
    (inverts : ∀ again D₂, Reads q D (.obj members) again D₂ → ∃ short space,
      Declares members q short space ∧ D₂ = fullName short space :: D ∧ again.name = .str short ∧
        again.qualifier = space ∧ again.children = []) :
    Rereads q D s (fullName name own :: D) (.obj members) := by
  have below : RereadsAll q (fullName name own :: D) s.children (fullName name own :: D) [] := by
    rw [leaf]
    exact .nil
  refine rereads_definition hq plain nonempty defines other hs ho below written named placed
    (fun space => ⟨space, sources_leaf type bare⟩) inside (fun writable nodes reads => ?_)
    fun again D₂ reads => ?_
  · cases reads
    obtain ⟨w, same, read⟩ := build writable
    obtain rfl := Except.ok.inj (written.symm.trans same)
    exact ⟨s, read, leaf, rfl⟩
  · obtain ⟨short, space, declared, rfl, hs', ho', bare'⟩ := inverts again D₂ reads
    refine ⟨short, space, declared, hs', ho', ?_⟩
    rintro rfl rfl
    rw [bare']
    exact .nil

theorem rereads_enum (hq : q ≠ some "") (plain : IsPlain name) (nonempty : own ≠ some "")
    {symbols : List String} (doc : Json) (distinct : symbols.eraseDups.length = symbols.length)
    (new : fullName name own ∉ D) :
    ∃ w, Rereads q D {
      kind := .enum, name := .str name, qualifier := own, documentation := doc,
      symbols := symbols } (fullName name own :: D) w := by
  have type : Json.member? ([("type", .str "enum"), ("name", .str name)] ++
      Json.present "namespace" (Json.ofOption .str own) ++ Json.present "doc" doc ++
      [("symbols", .arr (symbols.map .str))]) "type" = some (.str "enum") := by
    simp
  refine ⟨_, rereads_leafDefinition hq plain nonempty rfl (by simp) rfl rfl rfl rfl (by rw [toJson])
    type (by simp [parts]) (by simp [Json.memberOrNull])
    (by simp [Json.memberOrNull, Json.member?_present_of_ne])
    (fun writable => enum_roundTrip writable doc distinct new) fun again D₂ reads => ?_⟩
  obtain ⟨short, space, symbols, declared, rfl, rfl⟩ := of_reads_enum type reads
  exact ⟨short, space, declared, rfl, rfl, rfl, rfl⟩

theorem rereads_fixed (hq : q ≠ some "") (plain : IsPlain name) (nonempty : own ≠ some "")
    (size : Int) (logical doc : Json) (new : fullName name own ∉ D) :
    ∃ w, Rereads q D {
      kind := .primitive, typeName := some "fixed", name := .str name, qualifier := own,
      size := some size, logicalType := logical,
      documentation := doc } (fullName name own :: D) w := by
  have type : Json.member? ([("type", .str "fixed"), ("name", .str name)] ++
      Json.present "namespace" (Json.ofOption .str own) ++ [("size", .int size)] ++
      Json.present "logicalType" logical ++ Json.present "doc" doc) "type" =
        some (.str "fixed") := by
    simp
  refine ⟨_, rereads_leafDefinition hq plain nonempty rfl (by simp) rfl rfl rfl rfl
    (toJson_fixed nonempty ..) type (by simp [parts]) (by simp [Json.memberOrNull])
    (by simp [Json.memberOrNull, Json.member?_present_of_ne])
    (fun writable => fixed_roundTrip writable size logical doc new) fun again D₂ reads => ?_⟩
  obtain ⟨short, space, size, declared, rfl, rfl⟩ := of_reads_fixed type reads
  exact ⟨short, space, declared, rfl, rfl, rfl, rfl⟩

theorem rereads_record (hq : q ≠ some "") (plain : IsPlain name) (nonempty : own ≠ some "")
    {fields : List Field} (doc : Json) (named : ∀ f ∈ fields, f.name ≠ "")
    (distinct : (fields.map FieldOf.name).Nodup) (new : fullName name own ∉ D)
    (below : RereadsAll own (fullName name own :: D) (fields.map FieldOf.type) D' ws) :
    ∃ w, Rereads q D {
      kind := .record, name := .str name, qualifier := own, documentation := doc,
      fields := fields } D' w := by
  obtain ⟨written, types⟩ := fieldsToJson_eq below.written
  have length : ws.length = fields.length := by
    rw [length_of_membersToJson below.written, List.length_map]
  have unseen : ∀ f ∈ fields, f.name ∉ ([] : List String) := by simp
  generalize items : List.zipWith writtenField fields ws = fieldValues at written types
  have type : Json.member? ([("type", .str "record"), ("name", .str name)] ++
      Json.present "namespace" (Json.ofOption .str own) ++ Json.present "doc" doc ++
      [("fields", .arr fieldValues)]) "type" = some (.str "record") := by
    simp
  have listed : Json.member? ([("type", .str "record"), ("name", .str name)] ++
      Json.present "namespace" (Json.ofOption .str own) ++ Json.present "doc" doc ++
      [("fields", .arr fieldValues)]) "fields" = some (.arr fieldValues) := by
    simp [Json.member?_present_of_ne]
  have placed : Json.memberOrNull ([("type", .str "record"), ("name", .str name)] ++
      Json.present "namespace" (Json.ofOption .str own) ++ Json.present "doc" doc ++
      [("fields", .arr fieldValues)]) "namespace" = Json.ofOption .str own := by
    simp [Json.memberOrNull, Json.member?_present_of_ne]
  refine ⟨_, rereads_definition hq plain nonempty rfl (by simp) rfl rfl below
    (by rw [toJson, written]; rfl) (by simp [Json.memberOrNull]) placed (fun space => ?_) rfl
    (fun writable nodes reads => ?_) fun again D₂ reads => ?_⟩
  · rw [sources_word type, parts_record type (.inl rfl) listed, types]
    exact ⟨_, rfl⟩
  · obtain ⟨read, rfl, same⟩ := readsFields_written named unseen distinct reads length
    rw [items] at same
    have declared := declares_of_isWritable writable (by simp [Json.memberOrNull]) placed
    exact ⟨_, .record type (.inl rfl) declared listed new same, rfl, rfl⟩
  · obtain ⟨short, space, items', again, declared, listed', read, rfl⟩ :=
      of_reads_record type (.inl rfl) reads
    obtain rfl := Json.arr.inj (Option.some.inj (listed.symm.trans listed'))
    refine ⟨short, space, declared, rfl, rfl, ?_⟩
    rintro rfl rfl
    have values := readsMembers_of_readsFields read
    rwa [types] at values

end

/-! ### The whole of a reading -/

/-- Every reading is written, with the identities that it keeps. -/
theorem rereads_of_reads {q : Option String} {D D' : Definitions} {v : Json} {s : Schema}
    (hq : q ≠ some "") (regular : IsRegular D) (h : Reads q D v s D') :
    ∃ w, Rereads q D s D' w := by
  induction v using parts_induction generalizing q D s D' with
  | step v ih =>
    cases h with
    | name name => exact rereads_namedType hq name
    | union nonempty read =>
      obtain ⟨ws, below⟩ := rereadsAll_of_readsMembers hq
        (fun item hi D s D' regular read => ih item hi hq regular read) regular read
      exact ⟨_, rereads_union ((isTree_of_readsMembers read).1 nonempty) below⟩
    | wrapped type nested read =>
      exact ih _ (by simp [parts_wrapped type nested]) hq regular read
    | primitive type known => exact rereads_primitive q D known ..
    | reference type simple unknown => exact rereads_namedType hq _
    | array type present read =>
      obtain ⟨w, inner⟩ := ih _ (by simp [parts, type, present]) hq regular read
      exact rereads_array hq regular _ (buildsAlong_of_reads hq regular read).names inner
    | map type present read =>
      obtain ⟨w, inner⟩ := ih _ (by simp [parts, type, present]) hq regular read
      exact rereads_map hq regular _ (buildsAlong_of_reads hq regular read).names inner
    | enum type declared listed texts distinct new =>
      exact rereads_enum hq declared.plain (declared.space_ne_empty hq) _ distinct new
    | fixed type declared sized new =>
      exact rereads_fixed hq declared.plain (declared.space_ne_empty hq) _ _ _ new
    | record type known declared listed new read =>
      have space := declared.space_ne_empty hq
      rw [parts_record type known listed] at ih
      obtain ⟨ws, below⟩ := rereadsAll_of_readsMembers space
        (fun item hi D s D' regular read => ih item hi space regular read)
        (regular.define declared.plain space) (readsMembers_of_readsFields read)
      exact rereads_record hq declared.plain space _ (namesFit_of_readsFields read).1
        (isTree_of_readsFields read).2.1 new below

theorem settledAlong_iff {s : Schema} : HoldsAlong IsSettled [] (placedNodes none s) ↔
    ∀ i q node, (placedNodes none s)[i]? = some (q, node) →
      IsSettled (definedNames (s.nodes.take i)) q node := by
  rw [holdsAlong_iff, map_snd_placedNodes]
  rfl

/-- An accepted schema is always written, and what is written reads back with the same identities
exactly if no node has an empty name, a namespace left out inside another one, or a reference whose
name means something else when it is read again. -/
theorem toJson_keepsIdentities {text : String} {doc : Document} (h : parse text .avro = .ok doc) :
    ∃ w, toJson doc.root = .ok w ∧
      ((∃ again, ofJson w = .ok again ∧ identities again = identities doc.root) ↔
        ∀ i q node, (placedNodes none doc.root)[i]? = some (q, node) →
          IsSettled (definedNames (doc.root.nodes.take i)) q node) := by
  obtain ⟨v, root, -, built, rfl⟩ := parse_avro_eq_ok.mp h
  obtain ⟨D, read⟩ := ofJson_eq_ok.mp built
  obtain ⟨w, rereads⟩ := rereads_of_reads (by simp) isRegular_nil read
  refine ⟨w, rereads.written, ?_⟩
  rw [← settledAlong_iff]
  constructor
  · rintro ⟨again, readsBack, same⟩
    obtain ⟨D₂, reads⟩ := ofJson_eq_ok.mp readsBack
    exact (rereads.settled again D₂ reads same).1
  · intro settled
    obtain ⟨again, reads, same⟩ := rereads.keeps settled
    exact ⟨again, ofJson_eq_ok.mpr ⟨D, reads⟩, same⟩

/-- A record that refers to itself. -/
def nodeText : String :=
  "\x7b\"type\":\"record\",\"name\":\"a.Node\",\"fields\":[" ++
    "\x7b\"name\":\"next\",\"type\":[\"null\",\"Node\"]\x7d]\x7d"

/-- A union of nothing and of a record. -/
def nodeUnion : Schema := {
  kind := .union,
  members := [
    { kind := .primitive, typeName := some "null" },
    { kind := .reference, typeName := some "a.Node" }] }

/-- What that record is read as. -/
def nodeRoot : Schema := {
  kind := .record, name := .str "Node", qualifier := some "a",
  fields := [{ name := "next", type := nodeUnion }] }

theorem toJson_keepsIdentities_node :
    parse nodeText .avro = .ok { format := .avro, root := nodeRoot } ∧
      ∃ w again, toJson nodeRoot = .ok w ∧ ofJson w = .ok again ∧
        identities again = identities nodeRoot := by
  have read : jsonOfSchemaText nodeText = .ok (.obj [("type", .str "record"),
      ("name", .str "a.Node"), ("fields", .arr [.obj [("name", .str "next"),
        ("type", .arr [.str "null", .str "Node"])]])]) :=
    jsonOfSchemaText_eq_ok.mpr (Json.ofText_of_spelled (spelled_append rfl rfl) (by cbv))
  have parsed : parse nodeText .avro = .ok { format := .avro, root := nodeRoot } :=
    parse_avro_eq_ok.mpr ⟨_, _, read, by cbv, rfl⟩
  have placed : placedNodes none nodeRoot = [(none, nodeRoot), (some "a", nodeUnion),
      (some "a", { kind := .primitive, typeName := some "null" }),
      (some "a", { kind := .reference, typeName := some "a.Node" })] := by
    cbv
  have settled : HoldsAlong IsSettled [] (placedNodes none nodeRoot) := by
    rw [placed]
    refine ⟨?_, isSettled_of_other rfl (by decide), isSettled_of_other rfl (by decide), ?_, trivial⟩
    · exact (isSettled_definition rfl (by decide) rfl rfl).mpr ⟨by decide, fun _ => rfl⟩
    · exact isSettled_reference.mpr ⟨by decide, fun plain => absurd plain (by decide)⟩
  obtain ⟨w, written, keeps⟩ := toJson_keepsIdentities parsed
  obtain ⟨again, readsBack, same⟩ := keeps.mpr (settledAlong_iff.mp settled)
  exact ⟨parsed, w, again, written, readsBack, same⟩

/-- A record in a namespace that holds an enum in none. -/
def outsideText : String :=
  "\x7b\"type\":\"record\",\"name\":\"a.R\",\"fields\":[\x7b\"name\":\"x\",\"type\":" ++
    "\x7b\"type\":\"enum\",\"name\":\".E\",\"symbols\":[]\x7d\x7d]\x7d"

/-- A record of one field that is an enum. -/
def outsideRoot (own : Option String) : Schema := {
  kind := .record, name := .str "R", qualifier := some "a",
  fields := [{ name := "x", type := { kind := .enum, name := .str "E", qualifier := own } }] }

/-- An enum whose name is cut to an empty one. -/
def namelessEnumText : String :=
  "\x7b\"type\":\"enum\",\"name\":\"a.\",\"symbols\":[]\x7d"

theorem parse_outsideText :
    parse outsideText .avro = .ok { format := .avro, root := outsideRoot none } := by
  have read : jsonOfSchemaText outsideText = .ok (.obj [("type", .str "record"),
      ("name", .str "a.R"), ("fields", .arr [.obj [("name", .str "x"),
        ("type", .obj [("type", .str "enum"), ("name", .str ".E"), ("symbols", .arr [])])]])]) :=
    jsonOfSchemaText_eq_ok.mpr (Json.ofText_of_spelled (spelled_append rfl rfl) (by cbv))
  exact parse_avro_eq_ok.mpr ⟨_, _, read, by cbv, rfl⟩

theorem parse_referenceText : parse "\".string\"" .avro = .ok {
    format := .avro, root := { kind := .reference, typeName := some "string" } } := by
  have read : jsonOfSchemaText "\".string\"" = .ok (.str ".string") :=
    jsonOfSchemaText_eq_ok.mpr (Json.ofText_of_spelled rfl (by cbv))
  exact parse_avro_eq_ok.mpr ⟨_, _, read, by cbv, rfl⟩

theorem parse_namelessEnumText : parse namelessEnumText .avro = .ok {
    format := .avro, root := { kind := .enum, name := .str "", qualifier := some "a" } } := by
  have read : jsonOfSchemaText namelessEnumText = .ok (.obj [("type", .str "enum"),
      ("name", .str "a."), ("symbols", .arr [])]) :=
    jsonOfSchemaText_eq_ok.mpr (Json.ofText_of_spelled rfl (by cbv))
  exact parse_avro_eq_ok.mpr ⟨_, _, read, by cbv, rfl⟩

/-- An enum outside the namespace around it is read again as one inside of it, a reference to a type
called as a primitive one as this primitive type, and an enum without a name not at all. -/
theorem identities_lost :
    (∃ doc w again, parse outsideText .avro = .ok doc ∧ toJson doc.root = .ok w ∧
      ofJson w = .ok again ∧ identities again ≠ identities doc.root) ∧
    (∃ doc w again, parse "\".string\"" .avro = .ok doc ∧ toJson doc.root = .ok w ∧
      ofJson w = .ok again ∧ identities again ≠ identities doc.root) ∧
    ∃ doc w e, parse namelessEnumText .avro = .ok doc ∧ toJson doc.root = .ok w ∧
      ofJson w = .error e := by
  refine ⟨?_, ?_, ?_⟩
  · have before : identities (outsideRoot none) =
        [(.record, .str "a.R", none), (.enum, .str "E", none)] := by
      cbv
    have after : identities (outsideRoot (some "a")) =
        [(.record, .str "a.R", none), (.enum, .str "a.E", none)] := by
      cbv
    refine ⟨_, _, outsideRoot (some "a"), parse_outsideText, rfl, by cbv, ?_⟩
    rw [before, after]
    simp
  · refine ⟨_, _, { kind := .primitive, typeName := some "string" }, parse_referenceText, rfl,
      by cbv, ?_⟩
    rw [identities_eq, identities_eq]
    simp [identity]
  · exact ⟨_, _, ⟨.avro (.missingName "Enum"), none, []⟩, parse_namelessEnumText, rfl, by cbv⟩

end SchemaReview.Avro
