import SchemaReview.Registry.Comparison
import SchemaReview.Proofs.Batch
import SchemaReview.Proofs.Compatibility.Likeness
import SchemaReview.Proofs.Datum

/-!
# Comparing registries without hashes

Latest versions with the same fingerprint are not compared. If that loses nothing, the comparison of
two registries is the plain one: every subject that both have and that could be read is compared, in
order. It loses nothing where different texts have different fingerprints and the trees hold no
values that a comparison tells from their like.
-/
namespace SchemaReview

/-! ### The newest version of a subject

A registry lists the versions of a subject in any order, and some may have the same number. The
latest one is described here without the search that finds it. -/

/-- Whether a version has the highest number, and is the first one that has it. -/
structure IsNewest (versions : List RegisteredVersion) (latest : RegisteredVersion) : Prop where
  highest : ∀ v ∈ versions, v.version ≤ latest.version
  first : (versions.find? fun v => v.version == latest.version) = some latest

/-- The best of the versions seen so far stays the first one of its number. -/
theorem isNewest_foldl {seen rest : List RegisteredVersion} {best : RegisteredVersion}
    (h : IsNewest seen best) :
    IsNewest (seen ++ rest)
      (rest.foldl (fun best w => if best.version < w.version then w else best) best) := by
  induction rest generalizing seen best with
  | nil =>
    rw [List.append_nil]
    exact h
  | cons w rest ih =>
    have next : IsNewest (seen ++ [w]) (if best.version < w.version then w else best) := by
      split
      · rename_i higher
        refine ⟨fun v hv => ?_, ?_⟩
        · obtain hv | hv := List.mem_append.mp hv
          · exact le_of_lt (lt_of_le_of_lt (h.highest v hv) higher)
          · rw [List.mem_singleton.mp hv]
        · have lower : (seen.find? fun v => v.version == w.version) = none := by
            rw [List.find?_eq_none]
            intro v hv same
            have := h.highest v hv
            have := beq_iff_eq.mp same
            omega
          rw [List.find?_append, lower]
          simp
      · rename_i kept
        refine ⟨fun v hv => ?_, ?_⟩
        · obtain hv | hv := List.mem_append.mp hv
          · exact h.highest v hv
          · rw [List.mem_singleton.mp hv]
            omega
        · rw [List.find?_append, h.first]
          rfl
    have all := ih next
    rw [List.append_assoc] at all
    exact all

/-- The latest version is the first one with the highest number. -/
theorem isNewest_of_latestVersion {versions : List RegisteredVersion} {latest : RegisteredVersion}
    (h : latestVersion versions = some latest) : IsNewest versions latest := by
  cases versions with
  | nil => cases h
  | cons v rest =>
    have alone : IsNewest [v] v := ⟨by simp, by simp⟩
    have all : IsNewest ([v] ++ rest) _ := isNewest_foldl alone
    rw [latestVersion, Option.some.injEq] at h
    rw [← h]
    exact all

/-- Whether a subject has a version, and its latest one is the newest of those that were read. -/
def LoadedRegistry.HasNewest (r : LoadedRegistry) (subject : String) : Prop :=
  ∃ versions latest, r.snapshot.subjects.lookup subject = some versions ∧
    r.latest subject = some latest ∧ IsNewest versions latest

theorem LoadedRegistry.hasNewest_of_isSome {r : LoadedRegistry} {subject : String}
    (h : (r.latest subject).isSome = true) : r.HasNewest subject := by
  obtain ⟨latest, found⟩ := Option.isSome_iff_exists.mp h
  obtain ⟨versions, listed, newest⟩ := Option.bind_eq_some_iff.mp found
  exact ⟨versions, latest, listed, found, isNewest_of_latestVersion newest⟩

/-! ### The subjects that are compared -/

theorem pairwise_sortTexts {texts : List String} (distinct : texts.Nodup) :
    (sortTexts texts).Pairwise (· < ·) := by
  have sorted := isSortedBy_mergeSort id (fun _ _ _ => String.le_trans) String.le_total texts
  have apart : (sortTexts texts).Nodup := sorted.perm.nodup_iff.mpr distinct
  exact (sorted.ascending.and apart).imp fun h => Std.lt_of_le_of_ne h.1 h.2

theorem mem_sortTexts {texts : List String} {text : String} :
    text ∈ sortTexts texts ↔ text ∈ texts := (List.mergeSort_perm texts _).mem_iff

/-- What failed to load in one of two registries. -/
def failedSubjects (source target : LoadedRegistry) : List String :=
  (source.snapshot.failures ++ target.snapshot.failures).map (·.subject)

/-- Whether some subjects are those that two registries have in common, in order and each once, of
which no version failed to load and of which both have a version, and these are compared by their
newest versions. -/
structure AreCompared (source target : LoadedRegistry) (subjects : List String) : Prop where
  ascending : subjects.Pairwise (· < ·)
  mem_iff : ∀ subject, subject ∈ subjects ↔
    (subject ∈ source.subjects ∧ subject ∈ target.subjects) ∧
      subject ∉ failedSubjects source target ∧
      (source.latest subject).isSome = true ∧ (target.latest subject).isSome = true
  newest : ∀ subject ∈ subjects, source.HasNewest subject ∧ target.HasNewest subject

/-- The differences between the latest versions of a subject, whatever their fingerprints. -/
def plainDiff? (source target : LoadedRegistry) (mode : Mode) (withContent : Bool)
    (subject : String) : Except Failure (Option SubjectDiff) :=
  match source.latest subject, target.latest subject with
  | some before, some after =>
    match diff before.schema after.schema mode with
    | .error fault => .error (.type fault)
    | .ok [] => .ok none
    | .ok entries => .ok (some ⟨subject, entries, before, after, withContent⟩)
  | _, _ => .ok none

/-- Whether latest versions with different texts to hash have different fingerprints. -/
def HashesApart (source target : LoadedRegistry) : Prop :=
  ∀ subject before after, source.latest subject = some before →
    target.latest subject = some after →
    before.schema.root.fingerprint = after.schema.root.fingerprint →
    before.schema.root.payloadText = after.schema.root.payloadText

/-- Whether a hash hides nothing of the latest versions. -/
def HashesHideNothing (source target : LoadedRegistry) : Prop :=
  ∀ subject before after, source.latest subject = some before →
    target.latest subject = some after → AreComparable before.schema after.schema

/-- Whether the differences that the comparison of two exports reports are those of the subjects
that are compared, in their order, whatever the fingerprints. -/
def ReportsPlainDiffs (exportedSource exportedTarget : RegistryExport)
    (source target : LoadedRegistry) (mode : Mode) (compareMode : CompareMode)
    (withContent : Bool) : Prop :=
  ∃ subjects, AreCompared source target subjects ∧
    RegistryReport.schemaDiffs <$>
        (compareRegistries exportedSource exportedTarget mode compareMode withContent).value =
      if compareMode.comparesSchemas then
        List.filterMap id <$> subjects.mapM (plainDiff? source target mode withContent)
      else .ok []

section

variable {source target : LoadedRegistry}

/-- A subject whose fingerprints agree has no differences. -/
theorem subjectDiff?_eq_plainDiff? (apart : HashesApart source target)
    (shown : HashesHideNothing source target) (mode : Mode) (withContent : Bool)
    (subject : String) :
    subjectDiff? source target mode withContent subject =
      plainDiff? source target mode withContent subject := by
  unfold subjectDiff? plainDiff?
  cases hb : source.latest subject with
  | none => rfl
  | some before =>
    cases ha : target.latest subject with
    | none => rfl
    | some after =>
      dsimp only
      split
      · rename_i same
        have text := apart subject before after hb ha same
        rw [diff_eq_nil_of_payloadText_eq (shown subject before after hb ha) text]
      · rfl

theorem filterMap_mapM_cons {α β ε : Type} (run : α → Except ε (Option β)) (x : α)
    (xs : List α) : List.filterMap id <$> (x :: xs).mapM run = do
      let found ← run x
      let others ← List.filterMap id <$> xs.mapM run
      return found.toList ++ others := by
  rw [List.mapM_cons]
  cases run x with
  | error e => rfl
  | ok found =>
    cases xs.mapM run with
    | error e => rfl
    | ok others => cases found <;> rfl

/-- Elements for which a walk finds nothing can be left out. -/
theorem filterMap_mapM_filter {α β ε : Type} {run other : α → Except ε (Option β)} {p : α → Bool}
    {xs : List α} (skipped : ∀ x ∈ xs, p x = false → run x = .ok none)
    (same : ∀ x ∈ xs, p x = true → run x = other x) :
    List.filterMap id <$> xs.mapM run = List.filterMap id <$> (xs.filter p).mapM other := by
  induction xs with
  | nil => rfl
  | cons x rest ih =>
    rw [List.forall_mem_cons] at skipped same
    have others := ih skipped.2 same.2
    cases kept : p x with
    | true =>
      rw [List.filter_cons_of_pos kept, filterMap_mapM_cons, filterMap_mapM_cons, others,
        same.1 kept]
    | false =>
      rw [List.filter_cons_of_neg (by simp [kept]), filterMap_mapM_cons, skipped.1 kept, others]
      cases (rest.filter p).mapM other <;> rfl

/-- The differences of the schemas, without the records made on the way. -/
theorem value_schemaDiffs (source target : LoadedRegistry) (mode : Mode) (withContent : Bool)
    (failed subjects : List String) :
    (schemaDiffs source target mode withContent failed subjects).value =
      (List.filterMap id) <$> subjects.mapM fun subject =>
        if failed.contains subject then .ok none
        else subjectDiff? source target mode withContent subject := by
  unfold schemaDiffs
  rw [Logged.value_bind, Logged.value_collect]
  have each (subject : String) : (if failed.contains subject = true then (do
        Logged.tell .warning .registry
          ("Subject '" ++ subject ++ "' not compared: a registered version failed to parse")
        return .ok none : Logged (Except Failure (Option SubjectDiff)))
      else return subjectDiff? source target mode withContent subject).value =
      if failed.contains subject then .ok none
      else subjectDiff? source target mode withContent subject := by
    split <;> rfl
  simp only [each]
  rfl

/-- The subjects that both registries have, without those that are passed over. -/
def comparedSubjects (source target : LoadedRegistry) : List String :=
  (sortTexts (source.subjects.filter target.subjects.contains)).filter fun subject =>
    !(failedSubjects source target).contains subject &&
      ((source.latest subject).isSome && (target.latest subject).isSome)

theorem mem_comparedSubjects {subject : String} : subject ∈ comparedSubjects source target ↔
    (subject ∈ source.subjects ∧ subject ∈ target.subjects) ∧
      subject ∉ failedSubjects source target ∧
      (source.latest subject).isSome = true ∧ (target.latest subject).isSome = true := by
  unfold comparedSubjects
  rw [List.mem_filter, mem_sortTexts, List.mem_filter, List.contains_iff_mem]
  simp only [Bool.and_eq_true, Bool.not_eq_true', ← Bool.not_eq_true, List.contains_iff_mem]

theorem AreCompared.nodup {subjects : List String} (h : AreCompared source target subjects) :
    subjects.Nodup := by
  refine h.ascending.imp ?_
  rintro subject _ less rfl
  exact String.lt_irrefl subject less

/-- The subjects that are compared are determined, with their order. -/
theorem AreCompared.eq {subjects others : List String} (h : AreCompared source target subjects)
    (h' : AreCompared source target others) : subjects = others := by
  have perm : subjects.Perm others := (List.perm_ext_iff_of_nodup h.nodup h'.nodup).mpr
    fun subject => by rw [h.mem_iff, h'.mem_iff]
  refine perm.eq_of_pairwise (fun a b _ _ less more => ?_) h.ascending h'.ascending
  exact (String.lt_asymm less more).elim

theorem areCompared_comparedSubjects (distinct : source.subjects.Nodup) :
    AreCompared source target (comparedSubjects source target) where
  ascending := (pairwise_sortTexts (distinct.filter _)).filter _
  mem_iff _ := mem_comparedSubjects
  newest subject h := by
    obtain ⟨-, -, before, after⟩ := mem_comparedSubjects.mp h
    exact ⟨LoadedRegistry.hasNewest_of_isSome before, LoadedRegistry.hasNewest_of_isSome after⟩

/-- Subjects that failed to load or that have no version on one side show no difference. -/
theorem value_schemaDiffs_common (apart : HashesApart source target)
    (shown : HashesHideNothing source target) (mode : Mode) (withContent : Bool) :
    (schemaDiffs source target mode withContent (failedSubjects source target)
      (sortTexts (source.subjects.filter target.subjects.contains))).value =
      List.filterMap id <$>
        (comparedSubjects source target).mapM (plainDiff? source target mode withContent) := by
  rw [value_schemaDiffs]
  refine filterMap_mapM_filter (fun subject _ passed => ?_) fun subject _ kept => ?_
  · split
    · rfl
    · rename_i read
      rw [Bool.not_eq_true] at read
      rw [read, Bool.not_false, Bool.true_and, Bool.and_eq_false_iff] at passed
      unfold subjectDiff?
      obtain missing | missing := passed
      · rw [Option.isSome_eq_false_iff, Option.isNone_iff_eq_none] at missing
        rw [missing]
      · rw [Option.isSome_eq_false_iff, Option.isNone_iff_eq_none] at missing
        rw [missing]
        cases source.latest subject <;> rfl
  · rw [Bool.and_eq_true, Bool.not_eq_true'] at kept
    rw [kept.1]
    exact subjectDiff?_eq_plainDiff? apart shown mode withContent subject

theorem value_compareRegistries {exportedSource exportedTarget : RegistryExport}
    (loadedSource : (LoadedRegistry.load exportedSource "source").value = .ok source)
    (loadedTarget : (LoadedRegistry.load exportedTarget "target").value = .ok target)
    (mode : Mode) (compareMode : CompareMode) (withContent : Bool) :
    RegistryReport.schemaDiffs <$>
        (compareRegistries exportedSource exportedTarget mode compareMode withContent).value =
      (schemaDiffs source target mode withContent (failedSubjects source target)
        (if compareMode.comparesSchemas then
          sortTexts (source.subjects.filter target.subjects.contains) else [])).value := by
  unfold compareRegistries
  rw [Logged.value_bind, loadedSource]
  dsimp only
  rw [Logged.value_bind, loadedTarget]
  dsimp only
  unfold compareLoaded
  dsimp only
  rw [Logged.value_bind, Logged.value_bind]
  unfold failedSubjects
  cases (schemaDiffs source target mode withContent
    ((source.snapshot.failures ++ target.snapshot.failures).map (·.subject))
    (if compareMode.comparesSchemas then
      sortTexts (source.subjects.filter target.subjects.contains) else [])).value <;> rfl

end

/-- A version of a bare tree. -/
def onlyVersion (s : Schema) : RegisteredVersion := ⟨1, .model s, .null, none⟩

/-- An export of one version of each subject. -/
def exportOf (schemas : List (String × Schema)) : List (String × SubjectEntries) :=
  schemas.map fun entry => (entry.1, .listed [.ready (onlyVersion entry.2)])

def registryOf (schemas : List (String × Schema)) : LoadedRegistry :=
  ⟨exportOf schemas, ⟨schemas.map fun entry => (entry.1, [onlyVersion entry.2]), []⟩⟩

theorem load_exportOf (schemas : List (String × Schema)) (url : String) :
    (LoadedRegistry.load (.subjects (exportOf schemas)) url).value = .ok (registryOf schemas) := by
  have subjects : (loadSubjects url (exportOf schemas)).value =
      .ok (registryOf schemas).snapshot := by
    induction schemas with
    | nil => rfl
    | cons entry rest ih =>
      unfold exportOf at ih ⊢
      rw [List.map_cons, loadSubjects]
      dsimp only [SubjectEntries.toEntries]
      rw [Logged.value_bind]
      have entries : (loadEntries url entry.1 0 [.ready (onlyVersion entry.2)]).value =
          .ok ([onlyVersion entry.2], []) := rfl
      rw [entries]
      dsimp only
      rw [Logged.value_bind, ih]
      rfl
  unfold LoadedRegistry.load
  dsimp only [RegistryExport.toSubjects]
  rw [Logged.value_bind, subjects]
  rfl

theorem latest_registryOf (schemas : List (String × Schema)) (subject : String) :
    (registryOf schemas).latest subject = (schemas.lookup subject).map onlyVersion := by
  unfold LoadedRegistry.latest registryOf
  dsimp only
  induction schemas with
  | nil => rfl
  | cons entry rest ih =>
    obtain ⟨name, s⟩ := entry
    rw [List.map_cons, List.lookup_cons, List.lookup_cons]
    cases subject == name with
    | true => rfl
    | false => exact ih

theorem of_latest_registryOf {schemas : List (String × Schema)} {subject : String}
    {v : RegisteredVersion} (h : (registryOf schemas).latest subject = some v) :
    ∃ s, (subject, s) ∈ schemas ∧ onlyVersion s = v := by
  rw [latest_registryOf] at h
  obtain ⟨s, found, same⟩ := Option.map_eq_some_iff.mp h
  exact ⟨s, mem_of_lookup found, same⟩

/-- A type that is known by a word. -/
def wordType (word : String) : Schema := { kind := .primitive, typeName := some word }

/-- A size of a given type, and a name. -/
def sizeAndName (word : String) : List (String × Schema) :=
  [("size", wordType word), ("name", wordType "string")]

theorem fingerprint_wordType_ne : (wordType "int").fingerprint ≠ (wordType "long").fingerprint := by
  have int : (wordType "int").payloadText =
      "\x7b\"kind\":\"primitive\",\"type_name\":\"int\"\x7d" := by cbv
  have long : (wordType "long").payloadText =
      "\x7b\"kind\":\"primitive\",\"type_name\":\"long\"\x7d" := by cbv
  unfold Schema.fingerprint
  rw [int, long]
  decide +kernel

theorem areComparable_words (word other : String) :
    AreComparable (.model (wordType word)) (.model (wordType other)) := by
  have comparable (w : String) (byName : Bool) : (wordType w).IsComparable byName := by
    refine ⟨fun t ht => ?_, fun t ht => ?_⟩
    · rw [List.mem_singleton.mp ht]
      rfl
    · rw [List.mem_singleton.mp ht]
      simp [Schema.hidesNothing, Json.isNaN, Json.hasOneOrder, Json.isTextOrNull]
  have keys (w : String) : (wordType w).payload.hasDistinctKeys = true := rfl
  exact ⟨comparable word _, comparable other _, keys word, keys other⟩

/-- A type with a logical type that is no text. -/
def scaledType (members : List (String × Json)) : Schema :=
  { kind := .primitive, typeName := some "int", logicalType := .obj members }

/-- Pairs of trees with one text to hash that a comparison tells apart: documentation and a name
that are no numbers, a union of types with names that are no texts, and logical types whose members
change places. -/
def hiddenPairs : List (Schema × Schema) :=
  let undocumented : Schema :=
    { kind := .enum, name := .str "Event", documentation := .float .nan, symbols := ["A"] }
  let unnamed : Schema := { kind := .record, name := .float .nan }
  let numbered : Schema := { kind := .union, members := [{ kind := .record, name := .int 5 }] }
  [(undocumented, undocumented), (unnamed, unnamed), (numbered, numbered),
    (scaledType [("a", .null), ("b", .null)], scaledType [("b", .null), ("a", .null)])]

section

variable {before after : Schema}

theorem latest_event (s : Schema) :
    (registryOf [("event", s)]).latest "event" = some (onlyVersion s) := by
  rw [latest_registryOf]
  rfl

/-- Of two registries with a single subject, the differences are those of that subject. -/
theorem comparedSubjects_event :
    comparedSubjects (registryOf [("event", before)]) (registryOf [("event", after)]) =
      ["event"] := by
  have common : sortTexts ((registryOf [("event", before)]).subjects.filter
      (registryOf [("event", after)]).subjects.contains) = ["event"] := List.mergeSort_singleton _
  unfold comparedSubjects
  rw [common, List.filter_singleton, latest_event, latest_event]
  rfl

/-- Trees with one text to hash are not compared. -/
theorem value_compareRegistries_event (text : before.payloadText = after.payloadText) :
    RegistryReport.schemaDiffs <$> (compareRegistries (.subjects (exportOf [("event", before)]))
      (.subjects (exportOf [("event", after)])) .backward .all false).value = .ok [] := by
  have common : sortTexts ((registryOf [("event", before)]).subjects.filter
      (registryOf [("event", after)]).subjects.contains) = ["event"] := List.mergeSort_singleton _
  have skipped : subjectDiff? (registryOf [("event", before)]) (registryOf [("event", after)])
      .backward false "event" = .ok none := by
    have same : before.fingerprint = after.fingerprint := by
      unfold Schema.fingerprint
      rw [text]
    unfold subjectDiff?
    rw [latest_event, latest_event]
    exact if_pos same
  rw [value_compareRegistries (load_exportOf _ _) (load_exportOf _ _), value_schemaDiffs]
  have compares : CompareMode.all.comparesSchemas = true := rfl
  rw [if_pos compares, common, List.mapM_cons, skipped]
  rfl

theorem hashesApart_event (text : before.payloadText = after.payloadText) :
    HashesApart (registryOf [("event", before)]) (registryOf [("event", after)]) := by
  intro subject v w hv hw _
  obtain ⟨s, hs, rfl⟩ := of_latest_registryOf hv
  obtain ⟨t, ht, rfl⟩ := of_latest_registryOf hw
  cases List.mem_singleton.mp hs
  cases List.mem_singleton.mp ht
  exact text

theorem not_reportsPlainDiffs (text : before.payloadText = after.payloadText)
    (differ : diff (.model before) (.model after) .backward ≠ .ok []) :
    ¬ ReportsPlainDiffs (.subjects (exportOf [("event", before)]))
      (.subjects (exportOf [("event", after)])) (registryOf [("event", before)])
      (registryOf [("event", after)]) .backward .all false := by
  rintro ⟨subjects, compared, same⟩
  have distinct : (registryOf [("event", before)]).subjects.Nodup := List.nodup_singleton _
  have plain : plainDiff? (registryOf [("event", before)]) (registryOf [("event", after)])
      .backward false "event" = .ok none := by
    have compares : CompareMode.all.comparesSchemas = true := rfl
    rw [compared.eq (areCompared_comparedSubjects distinct), comparedSubjects_event,
      value_compareRegistries_event text, if_pos compares, filterMap_mapM_cons] at same
    cases found : plainDiff? (registryOf [("event", before)]) (registryOf [("event", after)])
        .backward false "event" with
    | error fault =>
      rw [found] at same
      cases same
    | ok d =>
      rw [found] at same
      cases d with
      | none => rfl
      | some d => cases same
  unfold plainDiff? at plain
  rw [latest_event, latest_event] at plain
  dsimp only [onlyVersion] at plain
  split at plain
  · cases plain
  · rename_i nothing
    exact differ nothing
  · cases plain

end

theorem isAlike_scaledType {members others : List (String × Json)}
    (h : (Json.obj members).sorted = (Json.obj others).sorted) :
    (scaledType members).IsAlike (scaledType others) := by
  have payload (ms : List (String × Json)) : (scaledType ms).payload =
      .obj [("kind", .str "primitive"), ("type_name", .str "int"), ("logical_type", .obj ms)] := rfl
  unfold Schema.IsAlike
  rw [payload, payload, Json.sorted_obj, Json.sorted_obj, ← Json.inKeyOrder_map_sortedMember,
    ← Json.inKeyOrder_map_sortedMember]
  simp only [List.map_cons, List.map_nil, Json.sortedMember, h]

/-- The hidden differences are differences. -/
theorem diff_hiddenPairs : ∀ pair ∈ hiddenPairs,
    diff (.model pair.1) (.model pair.2) .backward ≠ .ok [] := by
  intro pair hp nothing
  simp only [hiddenPairs, List.mem_cons, List.not_mem_nil, or_false] at hp
  obtain rfl | rfl | rfl | rfl := hp
  · have root : Comparison.namedChanges ⟨.backward, true⟩ [] _ _ = .ok [] := nothing
    rw [Comparison.namedChanges_enum _ _ rfl] at root
    cases root
  · have root : Comparison.namedChanges ⟨.backward, true⟩ [] _ _ = .ok [] := nothing
    rw [Comparison.namedChanges_container _ _ (by decide)] at root
    cases root
  · cases nothing
  · have entries := congrArg (fun run => run.toOption.map List.length) nothing
    exact absurd entries (by decide +kernel)

theorem payloadText_hiddenPairs : ∀ pair ∈ hiddenPairs,
    pair.1.payloadText = pair.2.payloadText := by
  intro pair hp
  simp only [hiddenPairs, List.mem_cons, List.not_mem_nil, or_false] at hp
  obtain rfl | rfl | rfl | rfl := hp
  · rfl
  · rfl
  · rfl
  · have sorted : (Json.obj [("a", .null), ("b", .null)]).sorted =
        (Json.obj [("b", .null), ("a", .null)]).sorted := by cbv
    exact (isAlike_scaledType sorted).payloadText

/-- Whether a difference is not reported, although both trees can be built, no text is hashed as
another one, and no field has a default. -/
structure IsUnreported (before after : Schema) : Prop where
  wellFormed : before.IsWellFormed ∧ after.IsWellFormed
  fieldless : ∀ t ∈ before.nodes ++ after.nodes, t.fields.isEmpty = true
  apart : HashesApart (registryOf [("event", before)]) (registryOf [("event", after)])
  hidden : ¬ ReportsPlainDiffs (.subjects (exportOf [("event", before)]))
    (.subjects (exportOf [("event", after)])) (registryOf [("event", before)])
    (registryOf [("event", after)]) .backward .all false

end SchemaReview
