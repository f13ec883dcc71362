import SchemaReview.Compatibility.Check
import SchemaReview.Proofs.Compatibility.Soundness
import SchemaReview.Proofs.Parse.Outcome

/-!
# What a compatible verdict promises

The verdict on an Avro schema that is checked against an earlier one is that of their comparison, so
a compatible one makes data of the earlier schema readable. The promise has limits: two roots that
only hold their named types are compared as types, a union with several members that are not null is
compared as a type wherever it stands, and a signature speaks for what it describes only if it can
be taken apart and if a name does not change its kind.
-/
namespace SchemaReview

open Schema

/-- The schema of a version that a candidate is compared with. -/
def PriorVersion.schema : PriorVersion → SchemaInput
  | .registered v => v.schema
  | .bare s => s

/-- A document as the reader of Avro schemas yields it. -/
structure IsAvro (d : Document) : Prop where
  format : d.format = .avro
  read : ∃ value, Avro.ofJson value = .ok d.root

theorem isAvro_of_parse {text : String} {d : Document} (h : parse text .avro = .ok d) :
    IsAvro d := by
  obtain ⟨value, root, -, built, rfl⟩ := parse_avro_eq_ok.mp h
  exact ⟨rfl, value, built⟩

/-- Entries that were left out because they are there already are not the breaking ones. -/
theorem hasBreaking_addEntries (entries added : List DiffEntry) :
    hasBreaking (addEntries entries added) = (hasBreaking entries || hasBreaking added) := by
  unfold addEntries
  induction added generalizing entries with
  | nil => simp [hasBreaking]
  | cons e rest ih =>
    rw [List.foldl_cons, ih]
    split
    · rename_i present
      obtain ⟨other, hmem, same⟩ := List.any_eq_true.mp present
      have breaking : e.breaking = other.breaking := by
        simp only [DiffEntry.same, Bool.and_eq_true, beq_iff_eq] at same
        exact same.1.2
      have absorbed : e.breaking = true → hasBreaking entries = true := fun he =>
        List.any_eq_true.mpr ⟨other, hmem, breaking ▸ he⟩
      cases he : e.breaking with
      | false => simp [hasBreaking, he]
      | true => simp [absorbed he]
    · simp [hasBreaking, Bool.or_assoc]

/-- The verdict against one version is compatible if their comparison has no breaking entry. -/
theorem diff_of_compatible {candidate : SchemaInput} {prior : PriorVersion} {mode : Mode}
    {identifier : String} {result : CheckResult}
    (h : (checkCompatible candidate [prior] mode identifier).value = .ok result)
    (compatible : result.verdict = .compatible) :
    ∃ entries, diff prior.schema candidate mode = .ok entries ∧ hasBreaking entries = false := by
  have single : ∃ n, checkedAgainst mode [prior] = [(n, prior.schema)] := by
    cases prior with
    | registered v => exact ⟨v.version, by simp [checkedAgainst, orderVersions, numberFrom,
        PriorVersion.schema]⟩
    | bare s => exact ⟨1, by simp [checkedAgainst, orderVersions, numberFrom,
        PriorVersion.schema]⟩
  obtain ⟨n, single⟩ := single
  replace h : compareAll candidate mode identifier (checkedAgainst mode [prior]) = .ok result := h
  rw [single, compareAll, collectEntries] at h
  cases hd : diff prior.schema candidate mode with
  | error fault =>
    rw [hd] at h
    cases h
  | ok entries =>
    simp only [hd, bind, Except.bind, collectEntries] at h
    obtain rfl := Except.ok.inj h
    refine ⟨entries, rfl, ?_⟩
    by_contra breaking
    have added := hasBreaking_addEntries [] entries
    rw [Bool.not_eq_false] at breaking
    rw [breaking, Bool.or_true] at added
    simp [added] at compatible

theorem diff_of_isAvro {before after : Document} (hb : IsAvro before) (ha : IsAvro after) :
    diff (.document before) (.document after) .backward =
      backwardByName.rootChanges before.root after.root := by
  have avro : (Format.avro == Format.jsonSchema) = false := rfl
  simp [diff, SchemaInput.hasLabels, SchemaInput.root, hb.format, ha.format, backwardByName, avro]

/-- Whether the comparison of two roots looks at the named types that both stand for. -/
def IsCompared (before after : Schema) : Prop :=
  before.kind.isStructured = true ∨ after.unwrapNamed = none ∨ before.unwrapNamed = none

/-- What the comparison leaves to reading at the level of types. -/
def ReadsAsType (reader writer : Schema) : Prop :=
  (reader.unwrapNamed = none ∨ writer.unwrapNamed = none) ∧ canRead true reader writer = true

/-- Whether the signatures of a schema can be taken apart and hide nothing behind a name. -/
structure IsLegible (s : Schema) : Prop where
  notReference : ∀ t ∈ s.nodes, t.kind ≠ .reference
  proper : ∀ t ∈ s.nodes, IsProper t

theorem IsLegible.isSelfContained {d : Document} (hd : IsAvro d) (h : IsLegible d.root) :
    IsSelfContained d.root := by
  obtain ⟨value, read⟩ := hd.read
  exact ⟨Avro.isTree_of_ofJson read, h.notReference, h.proper⟩

/-- A compatible verdict makes data of the earlier schema readable with the later one as far as the
comparison looks, and all the way down if no union has several members that are not null. Roots
whose named types it does not look at can be read at the level of types. -/
theorem resolves_of_compatible {before after : Document} {prior : PriorVersion}
    {identifier : String} {result : CheckResult} (hb : IsAvro before) (ha : IsAvro after)
    (earlier : prior.schema = .document before) (legibleBefore : IsLegible before.root)
    (legibleAfter : IsLegible after.root) (agree : KindsAgree after.root before.root)
    (h : (checkCompatible (.document after) [prior] .backward identifier).value = .ok result)
    (compatible : result.verdict = .compatible) :
    (before.root.kind.isStructured = false → canRead true after.root before.root = true) ∧
      (IsCompared before.root after.root →
        Resolves ReadsAsType after.root before.root ∧
          ((∀ t ∈ after.root.nodes, ¬ IsAmbiguous t) → (∀ t ∈ before.root.nodes, ¬ IsAmbiguous t) →
            Resolves (fun _ _ => False) after.root before.root)) := by
  obtain ⟨entries, hd, safe⟩ := diff_of_compatible h compatible
  rw [earlier, diff_of_isAvro hb ha] at hd
  have hw := legibleBefore.isSelfContained hb
  have hr := legibleAfter.isSelfContained ha
  refine ⟨fun flat => canRead_of_rootChanges hr hw agree flat hd safe, fun compared => ⟨?_, ?_⟩⟩
  · refine resolves_of_rootChanges hr hw ?_ agree compared hd safe
    exact fun r _ w _ unnamed reads => resolves_of_assumed ⟨unnamed, reads⟩
  · intro clearAfter clearBefore
    exact resolves_of_rootChanges hr hw (settlesUnnamed_of_clear hr hw clearAfter clearBefore)
      agree compared hd safe

/-- A record with one field. -/
def recordWith (name field : String) (type : Schema) : Schema :=
  { kind := .record, name := .str name, fields := [{ name := field, type := type }] }

def primitiveNode (word : String) : Schema := { kind := .primitive, typeName := some word }

def orNull (type : Schema) : Schema := { kind := .union, members := [primitiveNode "null", type] }

/-- A person who may have a home with a number of a given type. -/
def personWith (word : String) : Schema :=
  recordWith "Person" "home" (orNull (recordWith "Home" "number" (primitiveNode word)))

/-- A record with one field as data. -/
def recordJson (name field : String) (type : Json) : Json :=
  .obj [("type", .str "record"), ("name", .str name),
    ("fields", .arr [.obj [("name", .str field), ("type", type)]])]

def personJson (word : String) : Json :=
  recordJson "Person" "home" (.arr [.str "null", recordJson "Home" "number" (.str word)])

theorem isProper_primitiveNode (word : String) : IsProper (primitiveNode word) :=
  ⟨nofun, nofun, nofun, nofun⟩

theorem isProper_orNull (type : Schema) : IsProper (orNull type) := ⟨nofun, nofun, nofun, nofun⟩

theorem isProper_recordWith {name field : String} {type : Schema} (nonempty : name ≠ "")
    (word : IsWord name) (new : name ∉ Avro.primitives) :
    IsProper (recordWith name field type) := by
  have qualified : (recordWith name field type).qualifiedName = .str name := by
    simp [recordWith, qualifiedName, Json.isTruthy, nonempty]
  have plain : (recordWith name field type).logicalType.isTruthy = false := rfl
  refine ⟨fun h => nonempty (Json.str.inj h), fun q hq => ?_, fun q _ hq => ?_, fun h => ?_⟩
  · rw [qualified] at hq
    exact Json.str.inj hq ▸ word
  · rw [qualified] at hq
    exact Json.str.inj hq ▸ new
  · rw [plain] at h
    cases h

theorem nodes_personWith (word : String) : (personWith word).nodes =
    [personWith word, orNull (recordWith "Home" "number" (primitiveNode word)),
      primitiveNode "null", recordWith "Home" "number" (primitiveNode word),
      primitiveNode word] := by
  rfl

theorem isLegible_personWith (word : String) : IsLegible (personWith word) := by
  constructor
  · rw [nodes_personWith]
    simp [personWith, recordWith, orNull, primitiveNode]
  · rw [nodes_personWith]
    simp only [List.forall_mem_cons, List.not_mem_nil, false_implies, implies_true, and_true]
    refine ⟨?_, isProper_orNull _, isProper_primitiveNode _, ?_, isProper_primitiveNode _⟩
    · exact isProper_recordWith (by decide) (by decide) (by decide)
    · exact isProper_recordWith (by decide) (by decide) (by decide)

theorem not_isAmbiguous_personWith (word : String) :
    ∀ t ∈ (personWith word).nodes, ¬ IsAmbiguous t := by
  rw [nodes_personWith]
  simp [IsAmbiguous, personWith, recordWith, orNull, primitiveNode, Schema.isNull]

theorem resolves_of_compatible_person :
    (checkCompatible (.document { format := .avro, root := personWith "long" })
      [.bare (.document { format := .avro, root := personWith "int" })] .backward "person").value =
        .ok { identifier := "person", verdict := .compatible, mode := .backward,
              entries := [{
                kind := .fieldTypeChanged, path := [.name "home", .name "number"],
                before := .str "int", after := .str "long",
                message := "Type changed from 'int' to 'long'" }],
              checkedVersions := [1] } ∧
      Resolves (fun _ _ => False) (personWith "long") (personWith "int") := by
  have checked : (checkCompatible (.document { format := .avro, root := personWith "long" })
      [.bare (.document { format := .avro, root := personWith "int" })] .backward "person").value =
        .ok { identifier := "person", verdict := .compatible, mode := .backward,
              entries := [{
                kind := .fieldTypeChanged, path := [.name "home", .name "number"],
                before := .str "int", after := .str "long",
                message := "Type changed from 'int' to 'long'" }],
              checkedVersions := [1] } := by
    cbv
  have read (word : String) (h : Avro.ofJson (personJson word) = .ok (personWith word)) :
      IsAvro { format := .avro, root := personWith word } := ⟨rfl, personJson word, h⟩
  have agree : KindsAgree (personWith "long") (personWith "int") := by
    unfold KindsAgree
    simp only [nodes_personWith]
    simp [isNamed, Kind.isNamed, personWith, recordWith, orNull, primitiveNode]
  have promised := resolves_of_compatible (read "int" (by cbv)) (read "long" (by cbv)) rfl
    (isLegible_personWith "int") (isLegible_personWith "long") agree checked rfl
  exact ⟨checked, (promised.2 (.inl rfl)).2 (not_isAmbiguous_personWith "long")
    (not_isAmbiguous_personWith "int")⟩

/-- Whether a change passes the check although the later schema does not resolve data of the
earlier one. -/
def PassesUnresolved (before after : Json) : Prop :=
  ∃ w r : Schema, Avro.ofJson before = .ok w ∧ Avro.ofJson after = .ok r ∧
    (∀ t ∈ w.nodes, t.kind ≠ .reference) ∧ (∀ t ∈ r.nodes, t.kind ≠ .reference) ∧
    (∃ result, (checkCompatible (.document { format := .avro, root := r })
      [.bare (.document { format := .avro, root := w })] .backward "s").value = .ok result ∧
      result.verdict = .compatible) ∧
    ¬ Resolves (fun _ _ => False) r w

/-- The tree of a value that is known to be accepted. -/
def nodeOf (value : Json) : Schema :=
  match Avro.ofJson value with
  | .ok s => s
  | .error _ => { kind := .reference }

theorem passesUnresolved_of_decided {before after : Json}
    (hw : Avro.ofJson before = .ok (nodeOf before)) (hr : Avro.ofJson after = .ok (nodeOf after))
    (references : ((nodeOf before).nodes ++ (nodeOf after).nodes).all
      (fun t => t.kind != .reference) = true)
    (verdict : CheckResult.verdict <$> (checkCompatible
      (.document { format := .avro, root := nodeOf after })
      [.bare (.document { format := .avro, root := nodeOf before })] .backward "s").value =
        .ok .compatible)
    (unresolved : resolvesFully (nodeOf after) (nodeOf before) = false) :
    PassesUnresolved before after := by
  simp only [List.all_append, Bool.and_eq_true, List.all_eq_true, bne_iff_ne] at references
  obtain ⟨result, checked, compatible⟩ := map_eq_ok.mp verdict
  refine ⟨_, _, hw, hr, references.1, references.2, ⟨result, checked, compatible⟩, ?_⟩
  rw [← resolvesFully_iff, unresolved]
  exact Bool.false_ne_true

def arrayJson (items : Json) : Json := .obj [("type", .str "array"), ("items", items)]

def logicalJson (word logical : String) : Json :=
  .obj [("type", .str word), ("logicalType", .str logical)]

/-- Changes that the check does not notice: of a record under a root that only holds it, of a record
in a union with another member, of a record into an enum of its name below an array, of a type into
a record whose name is its signature, of a record without a name into one that is called so, and of
a union into a type whose logical type is the rest of its signature. -/
def unnoticedChanges : List (Json × Json) := [
  (arrayJson (recordJson "R" "a" (.str "int")), arrayJson (recordJson "R" "a" (.str "string"))),
  (recordJson "T" "f" (.arr [.str "null", recordJson "R" "a" (.str "int"), .str "int"]),
    recordJson "T" "f" (.arr [.str "null", recordJson "R" "a" (.str "string"), .str "int"])),
  (recordJson "T" "f" (arrayJson (recordJson "R" "a" (.str "int"))),
    recordJson "T" "f" (arrayJson (.obj [("type", .str "enum"), ("name", .str "R"),
      ("symbols", .arr [.str "A"])]))),
  (recordJson "T" "f" (.str "int"), recordJson "T" "f" (recordJson "int" "a" (.str "string"))),
  (recordJson "T" "f" (arrayJson (.str "int")),
    recordJson "T" "f" (recordJson "array<int>" "a" (.str "string"))),
  (recordJson "T" "f" (recordJson "x." "a" (.str "int")),
    recordJson "T" "f" (recordJson "record" "a" (.str "string"))),
  (recordJson "T" "f" (.arr [logicalJson "int" "a", logicalJson "string" "b"]),
    recordJson "T" "f" (.arr [logicalJson "int" "a),string(b"]))]

theorem unnoticedChanges_passUnresolved :
    unnoticedChanges.Forall fun change => PassesUnresolved change.1 change.2 := by
  refine ⟨?_, ?_, ?_, ?_, ?_, ?_, ?_⟩
  all_goals
    refine passesUnresolved_of_decided ?_ ?_ ?_ ?_ ?_
    all_goals cbv

end SchemaReview
