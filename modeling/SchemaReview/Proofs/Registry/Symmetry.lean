import SchemaReview.Proofs.Compatibility.Mirror
import SchemaReview.Proofs.Registry.Comparison
import SchemaReview.Proofs.Registry.Loaded

/-!
# Registries that change places

When two registries change places, the report on them is the same one read from the other side: what
only one of them has is what only the other one had, and each difference lists its two versions the
other way around. A difference is found from both sides or from none, although it may be breaking
from one side only.
-/
namespace SchemaReview

/-! ### The report from the other side -/

/-- The differences of a subject as they are found from the other side. -/
structure SubjectDiff.IsTurned (d e : SubjectDiff) : Prop where
  subject : e.subject = d.subject
  source : e.source = d.target
  target : e.target = d.source
  entries : AreMirrored false d.entries e.entries

/-- What of a failure does not depend on the registry that it is reported for. -/
def LoadFailure.place (f : LoadFailure) : String × Json × String := (f.subject, f.version, f.error)

/-- A report on two registries as it is made when these change places. -/
structure RegistryReport.IsTurned (r t : RegistryReport) : Prop where
  onlyInSource : t.onlyInSource = r.onlyInTarget
  onlyInTarget : t.onlyInTarget = r.onlyInSource
  common : t.common = r.common
  versionMismatches : t.versionMismatches.map (·.outline false) =
    r.versionMismatches.map (·.mirrored.outline false)
  failed : (t.failed.map LoadFailure.place).Perm (r.failed.map LoadFailure.place)
  schemaDiffs : List.Forall₂ SubjectDiff.IsTurned r.schemaDiffs t.schemaDiffs

/-- The three lists of subjects of a report are ascending without repetitions, have no subject in
common, and hold the subjects of the source and the target where they belong. -/
structure RegistryReport.Partitions (r : RegistryReport) (inSource inTarget : List String) :
    Prop where
  ascending : ∀ subjects ∈ [r.onlyInSource, r.onlyInTarget, r.common],
    subjects.Pairwise (· < ·)
  disjoint : [r.onlyInSource, r.onlyInTarget, r.common].Pairwise List.Disjoint
  mem_onlyInSource : ∀ s, s ∈ r.onlyInSource ↔ s ∈ inSource ∧ s ∉ inTarget
  mem_onlyInTarget : ∀ s, s ∈ r.onlyInTarget ↔ s ∈ inTarget ∧ s ∉ inSource
  mem_common : ∀ s, s ∈ r.common ↔ s ∈ inSource ∧ s ∈ inTarget

/-! ### Subjects -/

section

variable {inSource inTarget : List String}

/-- The subjects that both registries have, in order. -/
theorem sortTexts_common_comm (hs : inSource.Nodup) (ht : inTarget.Nodup) :
    sortTexts (inTarget.filter inSource.contains) =
      sortTexts (inSource.filter inTarget.contains) := by
  refine (pairwise_sortTexts (ht.filter _)).eq_of_mem_iff (pairwise_sortTexts (hs.filter _))
    fun s => ?_
  rw [mem_sortTexts, mem_sortTexts, List.mem_filter, List.mem_filter, List.contains_iff_mem,
    List.contains_iff_mem]
  exact And.comm

theorem mem_sortTexts_others {s : String} :
    s ∈ sortTexts (inSource.filter fun t => !inTarget.contains t) ↔
      s ∈ inSource ∧ s ∉ inTarget := by
  rw [mem_sortTexts, List.mem_filter, Bool.not_eq_true', ← Bool.not_eq_true, List.contains_iff_mem]

theorem mem_sortTexts_common {s : String} :
    s ∈ sortTexts (inSource.filter inTarget.contains) ↔ s ∈ inSource ∧ s ∈ inTarget := by
  rw [mem_sortTexts, List.mem_filter, List.contains_iff_mem]

end

/-! ### Differences -/

/-- Numbers of versions differ from both sides. -/
theorem versionMismatch?_turned (source target : LoadedRegistry) (subject : String) :
    (versionMismatch? target source subject).map (·.outline false) =
      (versionMismatch? source target subject).map (·.mirrored.outline false) := by
  unfold versionMismatch?
  dsimp only
  by_cases same : source.entryCount subject = target.entryCount subject
  · rw [if_pos same, if_pos same.symm]
    rfl
  · rw [if_neg same, if_neg (Ne.symm same)]
    rfl

/-- Entries that mirror each other are none on both sides or on no side. -/
theorem AreMirrored.eq_nil_iff {coloured : Bool} {entries others : List DiffEntry}
    (h : AreMirrored coloured entries others) : others = [] ↔ entries = [] := by
  have same := h.length_eq
  rw [List.length_map, List.length_map] at same
  rw [← List.length_eq_zero_iff, ← List.length_eq_zero_iff, same]

/-- The latest versions of a subject differ from both sides, or from none. -/
theorem subjectDiff?_turned {source target : LoadedRegistry} {subject : String}
    (hs : ∀ v, source.latest subject = some v → v.schema.root.IsWellFormed)
    (ht : ∀ v, target.latest subject = some v → v.schema.root.IsWellFormed) (m n : Mode)
    (withContent withContent' : Bool) {found : Option SubjectDiff}
    (ran : subjectDiff? source target m withContent subject = .ok found) :
    ∃ turned, subjectDiff? target source n withContent' subject = .ok turned ∧
      Option.Rel SubjectDiff.IsTurned found turned := by
  unfold subjectDiff? at ran ⊢
  cases hb : source.latest subject with
  | none =>
    rw [hb] at ran
    cases ran
    refine ⟨none, ?_, .none⟩
    cases target.latest subject <;> rfl
  | some before =>
    cases ha : target.latest subject with
    | none =>
      rw [hb, ha] at ran
      cases ran
      exact ⟨none, rfl, .none⟩
    | some after =>
      rw [hb, ha] at ran
      dsimp only at ran ⊢
      by_cases same : before.schema.root.fingerprint = after.schema.root.fingerprint
      · rw [if_pos same] at ran
        cases ran
        exact ⟨none, if_pos same.symm, .none⟩
      rw [if_neg same] at ran
      rw [if_neg (Ne.symm same)]
      cases compared : diff before.schema after.schema m with
      | error fault =>
        rw [compared] at ran
        cases ran
      | ok entries =>
        have mirror : RunsMirrored false (diff before.schema after.schema m)
            (diff after.schema before.schema n) := runsMirrored_diff nofun (hs _ hb) (ht _ ha) nofun
        obtain ⟨others, there, mirrored⟩ := mirror entries compared
        rw [compared] at ran
        rw [there]
        cases entries with
        | nil =>
          obtain rfl := mirrored.eq_nil_iff.mpr rfl
          cases ran
          exact ⟨none, rfl, .none⟩
        | cons entry rest =>
          cases others with
          | nil => exact absurd (mirrored.eq_nil_iff.mp rfl) (List.cons_ne_nil entry rest)
          | cons other more =>
            cases ran
            exact ⟨_, rfl, .some ⟨rfl, rfl, rfl, mirrored⟩⟩

/-- Walks over the same elements that find something related for each of them. -/
theorem forall₂_filterMap_mapM {α β γ ε : Type} {R : β → γ → Prop} {run : α → Except ε (Option β)}
    {other : α → Except ε (Option γ)} {xs : List α}
    (h : ∀ x ∈ xs, ∀ found, run x = .ok found →
      ∃ turned, other x = .ok turned ∧ Option.Rel R found turned)
    {ys : List β} (ran : List.filterMap id <$> xs.mapM run = .ok ys) :
    ∃ zs, List.filterMap id <$> xs.mapM other = .ok zs ∧ List.Forall₂ R ys zs := by
  induction xs generalizing ys with
  | nil =>
    cases ran
    exact ⟨[], rfl, .nil⟩
  | cons x rest ih =>
    rw [List.forall_mem_cons] at h
    rw [filterMap_mapM_cons] at ran ⊢
    obtain ⟨found, first, ran⟩ := bind_eq_ok.mp ran
    obtain ⟨others, walked, ran⟩ := bind_eq_ok.mp ran
    obtain rfl := pure_eq_ok.mp ran
    obtain ⟨turned, there, related⟩ := h.1 found first
    obtain ⟨zs, walkedThere, all⟩ := ih h.2 walked
    rw [there, walkedThere]
    refine ⟨_, rfl, ?_⟩
    cases related with
    | none => exact all
    | some related => exact .cons related all

/-! ### Reports -/

/-- The comparison of two loaded registries, without the records made on the way. -/
theorem value_compareLoaded (source target : LoadedRegistry) (mode : Mode)
    (compareMode : CompareMode) (withContent : Bool) :
    (compareLoaded source target mode compareMode withContent).value =
      let common := sortTexts (source.subjects.filter target.subjects.contains)
      (fun diffs => {
        onlyInSource := sortTexts (source.subjects.filter fun s => !target.subjects.contains s),
        onlyInTarget := sortTexts (target.subjects.filter fun s => !source.subjects.contains s),
        common := common,
        versionMismatches :=
          if compareMode.comparesVersions then common.filterMap (versionMismatch? source target)
          else [],
        schemaDiffs := diffs, failed := source.snapshot.failures ++ target.snapshot.failures,
        mode := mode, compareMode := compareMode }) <$>
        (schemaDiffs source target mode withContent (failedSubjects source target)
          (if compareMode.comparesSchemas then common else [])).value := by
  unfold compareLoaded
  dsimp only
  rw [Logged.value_bind, Logged.value_bind]
  unfold failedSubjects
  cases (schemaDiffs source target mode withContent
    ((source.snapshot.failures ++ target.snapshot.failures).map (·.subject))
    (if compareMode.comparesSchemas then
      sortTexts (source.subjects.filter target.subjects.contains) else [])).value <;> rfl

section

variable {source target : LoadedRegistry} {mode : Mode} {compareMode : CompareMode}
  {withContent : Bool} {report : RegistryReport}

/-- The subjects are sorted into three lists, whatever else is compared. -/
theorem partitions_of_compareLoaded (hs : source.subjects.Nodup) (ht : target.subjects.Nodup)
    (ran : (compareLoaded source target mode compareMode withContent).value = .ok report) :
    report.Partitions source.subjects target.subjects := by
  rw [value_compareLoaded] at ran
  obtain ⟨diffs, -, rfl⟩ := map_eq_ok.mp ran
  refine ⟨?_, ?_, fun s => mem_sortTexts_others, fun s => mem_sortTexts_others,
    fun s => mem_sortTexts_common⟩
  · simp only [List.forall_mem_cons, List.not_mem_nil, false_implies, implies_true, and_true]
    exact ⟨pairwise_sortTexts (hs.filter _), pairwise_sortTexts (ht.filter _),
      pairwise_sortTexts (hs.filter _)⟩
  · simp only [List.pairwise_cons, List.forall_mem_cons, List.not_mem_nil, false_implies,
      implies_true, and_true, List.Pairwise.nil]
    refine ⟨⟨?_, ?_⟩, ?_⟩
    · intro s left right
      exact (mem_sortTexts_others.mp right).2 (mem_sortTexts_others.mp left).1
    · intro s left both
      exact (mem_sortTexts_others.mp left).2 (mem_sortTexts_common.mp both).2
    · intro s right both
      exact (mem_sortTexts_others.mp right).2 (mem_sortTexts_common.mp both).1

theorem mem_failedSubjects_moved {url url' subject : String} :
    subject ∈ failedSubjects (target.movedTo url) (source.movedTo url') ↔
      subject ∈ failedSubjects source target := by
  unfold failedSubjects LoadedRegistry.movedTo Snapshot.movedTo
  dsimp only
  rw [List.map_append, List.map_append, LoadFailure.map_movedTo fun _ => rfl,
    LoadFailure.map_movedTo fun _ => rfl, List.mem_append, List.mem_append]
  exact or_comm

/-- The comparison of loaded registries that change places. -/
theorem compareLoaded_turned (hs : source.subjects.Nodup) (ht : target.subjects.Nodup)
    (formedSource : ∀ subject v, source.latest subject = some v → v.schema.root.IsWellFormed)
    (formedTarget : ∀ subject v, target.latest subject = some v → v.schema.root.IsWellFormed)
    (ran : (compareLoaded source target mode compareMode withContent).value = .ok report)
    (url url' : String) (n : Mode) (withContent' : Bool) :
    ∃ turned, (compareLoaded (target.movedTo url) (source.movedTo url') n compareMode
        withContent').value = .ok turned ∧ report.IsTurned turned := by
  rw [value_compareLoaded] at ran ⊢
  dsimp only at ran ⊢
  obtain ⟨diffs, compared, rfl⟩ := map_eq_ok.mp ran
  simp only [LoadedRegistry.subjects_movedTo, sortTexts_common_comm hs ht]
  rw [value_schemaDiffs] at compared ⊢
  have each (subject : String) {found : Option SubjectDiff}
      (here : (if (failedSubjects source target).contains subject then .ok none
        else subjectDiff? source target mode withContent subject) = .ok found) :
      ∃ turned, (if (failedSubjects (target.movedTo url) (source.movedTo url')).contains subject
          then .ok none else subjectDiff? (target.movedTo url) (source.movedTo url') n withContent'
            subject) = .ok turned ∧ Option.Rel SubjectDiff.IsTurned found turned := by
    simp only [List.contains_iff_mem, mem_failedSubjects_moved] at here ⊢
    by_cases failed : subject ∈ failedSubjects source target
    · rw [if_pos failed] at here ⊢
      cases here
      exact ⟨none, rfl, .none⟩
    · rw [if_neg failed] at here ⊢
      exact subjectDiff?_turned (formedSource subject) (formedTarget subject) mode n withContent
        withContent' here
  obtain ⟨others, there, turned⟩ := forall₂_filterMap_mapM (fun x _ _ => each x) compared
  rw [there]
  refine ⟨_, rfl, rfl, rfl, rfl, ?_, ?_, turned⟩
  · dsimp only
    split
    · rw [List.map_filterMap, List.map_filterMap]
      exact congrArg (List.filterMap · _) (funext (versionMismatch?_turned source target))
    · rfl
  · unfold LoadedRegistry.movedTo Snapshot.movedTo
    dsimp only
    rw [List.map_append, List.map_append, LoadFailure.map_movedTo fun _ => rfl,
      LoadFailure.map_movedTo fun _ => rfl]
    exact List.perm_append_comm

end

section

variable {exportedSource exportedTarget : RegistryExport} {mode : Mode}
  {compareMode : CompareMode} {withContent : Bool} {report : RegistryReport}

/-- A comparison of two exports is one of the registries that they are loaded as. -/
theorem compareRegistries_eq_ok :
    (compareRegistries exportedSource exportedTarget mode compareMode withContent).value =
        .ok report ↔
      ∃ source target, (LoadedRegistry.load exportedSource "source").value = .ok source ∧
        (LoadedRegistry.load exportedTarget "target").value = .ok target ∧
        (compareLoaded source target mode compareMode withContent).value = .ok report := by
  unfold compareRegistries
  rw [Logged.value_bind]
  cases (LoadedRegistry.load exportedSource "source").value with
  | error f => exact ⟨nofun, fun ⟨_, _, loaded, _⟩ => nomatch loaded⟩
  | ok source =>
    dsimp only
    rw [Logged.value_bind]
    cases (LoadedRegistry.load exportedTarget "target").value with
    | error f => exact ⟨nofun, fun ⟨_, _, _, loaded, _⟩ => nomatch loaded⟩
    | ok target =>
      refine ⟨fun ran => ⟨source, target, rfl, rfl, ran⟩, ?_⟩
      rintro ⟨s, t, hs, ht, ran⟩
      cases hs
      cases ht
      exact ran

theorem nodup_subjects (built : exportedSource.IsBuildable) {url : String}
    {r : LoadedRegistry} (loaded : (LoadedRegistry.load exportedSource url).value = .ok r) :
    r.subjects.Nodup := by
  rw [LoadedRegistry.subjects_of_load loaded]
  obtain ⟨subjects, -, listed, -⟩ := LoadedRegistry.of_load loaded
  unfold RegistryExport.subjectNames
  rw [listed]
  exact (built subjects listed).1

/-- When two exports change places, their comparison comes to the same report read from the other
side, under any two modes: the subjects that one of them has alone change sides, those that both
have stay, numbers of versions that differ and latest versions that differ do so the other way
around, and the same entries fail. In both reports the lists of subjects are sorted and divide the
subjects of the two exports. -/
theorem compareRegistries_turned (hs : exportedSource.IsBuildable)
    (ht : exportedTarget.IsBuildable)
    (ran : (compareRegistries exportedSource exportedTarget mode compareMode withContent).value =
      .ok report) (n : Mode) (withContent' : Bool) :
    ∃ turned, (compareRegistries exportedTarget exportedSource n compareMode withContent').value =
        .ok turned ∧ report.IsTurned turned ∧
      report.Partitions exportedSource.subjectNames exportedTarget.subjectNames ∧
      turned.Partitions exportedTarget.subjectNames exportedSource.subjectNames := by
  obtain ⟨source, target, loadedSource, loadedTarget, ran⟩ := compareRegistries_eq_ok.mp ran
  have distinctSource := nodup_subjects hs loadedSource
  have distinctTarget := nodup_subjects ht loadedTarget
  obtain ⟨turned, ranThere, same⟩ := compareLoaded_turned distinctSource distinctTarget
    (fun _ _ => LoadedRegistry.isWellFormed_of_latest hs loadedSource)
    (fun _ _ => LoadedRegistry.isWellFormed_of_latest ht loadedTarget) ran "source" "target" n
    withContent'
  refine ⟨turned, compareRegistries_eq_ok.mpr ?_, same, ?_, ?_⟩
  · exact ⟨target.movedTo "source", source.movedTo "target",
      LoadedRegistry.load_moved "source" loadedTarget,
      LoadedRegistry.load_moved "target" loadedSource, ranThere⟩
  · rw [← LoadedRegistry.subjects_of_load loadedSource,
      ← LoadedRegistry.subjects_of_load loadedTarget]
    exact partitions_of_compareLoaded distinctSource distinctTarget ran
  · rw [← LoadedRegistry.subjects_of_load loadedSource,
      ← LoadedRegistry.subjects_of_load loadedTarget]
    have divided : turned.Partitions (target.movedTo "source").subjects
        (source.movedTo "target").subjects :=
      partitions_of_compareLoaded distinctTarget distinctSource ranThere
    exact divided

end

/-! ### Registries with one version of each subject -/

theorem isBuildable_exportOf {schemas : List (String × Schema)}
    (distinct : (schemas.map Prod.fst).Nodup)
    (formed : ∀ entry ∈ schemas, entry.2.IsWellFormed) :
    (RegistryExport.subjects (exportOf schemas)).IsBuildable := by
  intro subjects listed
  cases listed
  unfold exportOf
  refine ⟨?_, fun held hh entries listed v hv => ?_⟩
  · rw [List.map_map]
    exact distinct
  · obtain ⟨entry, he, rfl⟩ := List.mem_map.mp hh
    cases listed
    obtain rfl := RegistryEntry.ready.inj (List.mem_singleton.mp hv)
    exact formed entry he

theorem isWellFormed_wordType (word : String) : (wordType word).IsWellFormed :=
  Schema.isWellFormed_of_children rfl nofun

/-- A color besides a size and a name. -/
def colorAndSize : List (String × Schema) := ("color", wordType "string") :: sizeAndName "int"

/-- The change of a size. -/
def sizeChange : DiffEntry := {
  kind := .fieldTypeChanged, path := [], before := .str "int", after := .str "long",
  message := "Type changed from 'int' to 'long'" }

theorem schemaDiffs_sizes :
    (schemaDiffs (registryOf colorAndSize) (registryOf (sizeAndName "long")) .backward false []
        ["name", "size"]).value =
      .ok [⟨"size", [sizeChange], onlyVersion (wordType "int"), onlyVersion (wordType "long"),
        false⟩] := by
  have name : subjectDiff? (registryOf colorAndSize) (registryOf (sizeAndName "long")) .backward
      false "name" = .ok none := by
    unfold subjectDiff?
    rw [latest_registryOf, latest_registryOf]
    exact if_pos rfl
  have size : subjectDiff? (registryOf colorAndSize) (registryOf (sizeAndName "long")) .backward
      false "size" = .ok (some ⟨"size", [sizeChange], onlyVersion (wordType "int"),
        onlyVersion (wordType "long"), false⟩) := by
    have compared : diff (.model (wordType "int")) (.model (wordType "long")) .backward =
        .ok [sizeChange] := by cbv
    unfold subjectDiff?
    rw [latest_registryOf, latest_registryOf]
    refine (if_neg fingerprint_wordType_ne).trans ?_
    dsimp only [onlyVersion]
    rw [compared]
  rw [value_schemaDiffs, filterMap_mapM_cons, filterMap_mapM_cons]
  simp only [List.contains_nil, Bool.false_eq_true, if_false, name, size]
  rfl

/-- One registry has a color that the other one has not, and holds a size as an `int`. -/
theorem compareRegistries_turned_sizes :
    (RegistryExport.subjects (exportOf colorAndSize)).IsBuildable ∧
      (RegistryExport.subjects (exportOf (sizeAndName "long"))).IsBuildable ∧
      ∃ report turned,
        (compareRegistries (.subjects (exportOf colorAndSize))
          (.subjects (exportOf (sizeAndName "long"))) .backward .all false).value = .ok report ∧
        (compareRegistries (.subjects (exportOf (sizeAndName "long")))
          (.subjects (exportOf colorAndSize)) .backward .all false).value = .ok turned ∧
        report.IsTurned turned ∧ report.onlyInSource = ["color"] ∧
        turned.onlyInTarget = ["color"] ∧ report.schemaDiffs.map (·.subject) = ["size"] := by
  have words : ∀ entry ∈ colorAndSize, entry.2.IsWellFormed := by
    simp only [colorAndSize, sizeAndName, List.forall_mem_cons, isWellFormed_wordType, true_and]
    exact List.forall_mem_nil _
  have others : ∀ entry ∈ sizeAndName "long", entry.2.IsWellFormed := by
    simp only [sizeAndName, List.forall_mem_cons, isWellFormed_wordType, true_and]
    exact List.forall_mem_nil _
  have source := isBuildable_exportOf (by decide) words
  have target := isBuildable_exportOf (by decide) others
  have common : sortTexts ((registryOf colorAndSize).subjects.filter
      (registryOf (sizeAndName "long")).subjects.contains) = ["name", "size"] := by cbv
  have compared := value_compareLoaded (registryOf colorAndSize) (registryOf (sizeAndName "long"))
    .backward .all false
  dsimp only at compared
  rw [common] at compared
  have ran := compareRegistries_eq_ok.mpr ⟨_, _, load_exportOf colorAndSize "source",
    load_exportOf (sizeAndName "long") "target",
    compared.trans (congrArg _ schemaDiffs_sizes)⟩
  obtain ⟨turned, there, same, -⟩ := compareRegistries_turned source target ran .backward false
  have only : sortTexts ((registryOf colorAndSize).subjects.filter fun s =>
      !(registryOf (sizeAndName "long")).subjects.contains s) = ["color"] := by cbv
  exact ⟨source, target, _, turned, ran, there, same, only, same.onlyInTarget.trans only, rfl⟩

end SchemaReview
