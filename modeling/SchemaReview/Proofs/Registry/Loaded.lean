import SchemaReview.Proofs.Compatibility.Likeness
import SchemaReview.Proofs.Parse.WellFormed
import SchemaReview.Proofs.Registry.Loading
import SchemaReview.Proofs.Registry.Comparison

/-!
# Loaded registries

A loaded registry has the subjects of its export. Where the export came from is recorded on failures
only, so the versions that were read do not depend on it; and they hold well-formed trees if those
that were not read from a text do.
-/
namespace SchemaReview

/-! ### Where an export came from -/

/-- A failure as another registry would report it. -/
def LoadFailure.movedTo (url : String) (f : LoadFailure) : LoadFailure := { f with registry := url }

/-- What does not depend on the registry is kept. -/
theorem LoadFailure.map_movedTo {β : Type} {g : LoadFailure → β} {url : String}
    (kept : ∀ f, g (movedTo url f) = g f) (failures : List LoadFailure) :
    (failures.map (movedTo url)).map g = failures.map g := by
  rw [List.map_map]
  exact List.map_congr_left fun f _ => kept f

/-- A snapshot as another registry would give it. -/
def Snapshot.movedTo (url : String) (s : Snapshot) : Snapshot :=
  ⟨s.subjects, s.failures.map (LoadFailure.movedTo url)⟩

/-- A text from a registry is read in the language that the entry names, wherever it came from. -/
theorem readEntry_moved (url url' subject : String) (number value : Json) :
    readEntry url' subject number value = readEntry url subject number value := by
  cases value with
  | obj members =>
    cases held : (Json.member? members "schemaText").getD (Json.memberOrNull members "schema") with
    | str text =>
      rw [readEntry_written held, readEntry_written held]
      unfold Source.ofRegistry
      split
      · rfl
      · split <;> rfl
    | _ =>
      unfold readEntry
      dsimp only
      rw [held]
  | _ => rfl

theorem value_loadEntries_moved (url url' subject : String) (position : Nat)
    (entries : List RegistryEntry) :
    (loadEntries url' subject position entries).value =
      (fun loaded => (loaded.1, loaded.2.map (LoadFailure.movedTo url'))) <$>
        (loadEntries url subject position entries).value := by
  induction entries generalizing position with
  | nil => rfl
  | cons entry rest ih =>
    cases entry with
    | ready v =>
      rw [loadEntries, loadEntries, Logged.value_bind, Logged.value_bind, ih]
      cases (loadEntries url subject (position + 1) rest).value <;> rfl
    | payload value =>
      rw [loadEntries, loadEntries]
      dsimp only
      rw [readEntry_moved url url']
      cases readEntry url subject (declaredNumber position value) value with
      | ok v =>
        dsimp only
        rw [Logged.value_bind, Logged.value_bind, ih]
        cases (loadEntries url subject (position + 1) rest).value <;> rfl
      | error f =>
        dsimp only
        split
        · rw [Logged.value_bind, Logged.value_bind, Logged.value_bind, Logged.value_bind, ih]
          cases (loadEntries url subject (position + 1) rest).value <;> rfl
        · rfl

theorem value_loadSubjects_moved (url url' : String) (subjects : List (String × SubjectEntries)) :
    (loadSubjects url' subjects).value =
      Snapshot.movedTo url' <$> (loadSubjects url subjects).value := by
  induction subjects with
  | nil => rfl
  | cons held rest ih =>
    obtain ⟨subject, entries⟩ := held
    rw [loadSubjects, loadSubjects]
    cases entries.toEntries with
    | error f => rfl
    | ok listed =>
      dsimp only
      rw [Logged.value_bind, Logged.value_bind, value_loadEntries_moved url url']
      cases (loadEntries url subject 0 listed).value with
      | error f => rfl
      | ok loaded =>
        change Except.map _ (loadSubjects url' rest).value =
          Snapshot.movedTo url' <$> Except.map _ (loadSubjects url rest).value
        rw [ih]
        cases (loadSubjects url rest).value with
        | error f => rfl
        | ok s => simp [Except.map, Functor.map, Snapshot.movedTo]

namespace LoadedRegistry

/-- A loaded registry as if its export had come from elsewhere. -/
def movedTo (url : String) (r : LoadedRegistry) : LoadedRegistry :=
  ⟨r.exported, r.snapshot.movedTo url⟩

variable {r : LoadedRegistry}

@[simp] theorem subjects_movedTo (url : String) : (r.movedTo url).subjects = r.subjects := rfl

/-- An export can be loaded from anywhere if it can be loaded at all. -/
theorem load_moved {exported : RegistryExport} {url : String} (url' : String)
    (h : (LoadedRegistry.load exported url).value = .ok r) :
    (LoadedRegistry.load exported url').value = .ok (r.movedTo url') := by
  unfold LoadedRegistry.load at h ⊢
  cases listed : exported.toSubjects with
  | error f =>
    rw [listed] at h
    cases h
  | ok subjects =>
    rw [listed] at h
    dsimp only at h ⊢
    rw [Logged.value_bind] at h ⊢
    rw [value_loadSubjects_moved url url']
    cases loaded : (loadSubjects url subjects).value with
    | error f =>
      rw [loaded] at h
      cases h
    | ok s =>
      rw [loaded] at h
      cases h
      rfl

end LoadedRegistry

/-! ### What was exported -/

namespace RegistryExport

/-- The names of the subjects of an export. -/
def subjectNames (exported : RegistryExport) : List String :=
  match exported.toSubjects with
  | .ok held => held.map Prod.fst
  | .error _ => []

/-- An export that there can be: it names no subject twice, and the versions that it holds without
a text to read them from have trees that can be built. -/
def IsBuildable (exported : RegistryExport) : Prop :=
  ∀ subjects, exported.toSubjects = .ok subjects → (subjects.map Prod.fst).Nodup ∧
    ∀ held ∈ subjects, ∀ entries, held.2.toEntries = .ok entries →
      ∀ v, RegistryEntry.ready v ∈ entries → v.schema.root.IsWellFormed

end RegistryExport

section

variable {url : String}

/-- What comes of the entries of a subject is under its name. -/
theorem of_subjectOutcome_eq_ok {held : String × SubjectEntries}
    {outcomes : String × List EntryOutcome} (h : subjectOutcome url held = .ok outcomes) :
    outcomes.1 = held.1 ∧ ∃ entries, held.2.toEntries = .ok entries ∧
      List.Forall₂ (fun placed outcome => ComesTo url held.1 placed.2 placed.1 outcome)
        entries.zipIdx outcomes.2 := by
  obtain ⟨entries, listed, h⟩ := bind_eq_ok.mp h
  obtain ⟨found, made, h⟩ := bind_eq_ok.mp h
  obtain rfl := pure_eq_ok.mp h
  obtain ⟨others, again, comes, -⟩ | ⟨entry, -, f, -, failed⟩ :=
    entryOutcomes_cases url held.1 0 entries
  · rw [made] at again
    cases again
    exact ⟨rfl, entries, listed, comes⟩
  · rw [made] at failed
    cases failed

/-- An entry that comes to a version holds it already, or is read as a parsed document. -/
theorem isWellFormed_of_comesTo {subject : String} {position : Nat} {entry : RegistryEntry}
    {v : RegisteredVersion} (h : ComesTo url subject position entry (.inl v)) :
    entry = .ready v ∨ v.schema.root.IsWellFormed := by
  cases h with
  | ready v => exact .inl rfl
  | @loaded value v read =>
    obtain ⟨-, text, format, document, same, parsed⟩ := of_readEntry_eq_ok read
    exact .inr (same ▸ isWellFormed_of_parse parsed)

end

namespace LoadedRegistry

variable {exported : RegistryExport} {url : String} {r : LoadedRegistry}

/-- A registry that was loaded holds what came of the entries of each subject. -/
theorem of_load (h : (LoadedRegistry.load exported url).value = .ok r) :
    ∃ subjects loaded, exported.toSubjects = .ok subjects ∧
      r = ⟨subjects, Snapshot.ofOutcomes loaded⟩ ∧
      List.Forall₂ (fun held outcomes => subjectOutcome url held = .ok outcomes) subjects loaded := by
  unfold LoadedRegistry.load at h
  cases listed : exported.toSubjects with
  | error f =>
    rw [listed] at h
    cases h
  | ok subjects =>
    rw [listed] at h
    dsimp only at h
    rw [Logged.value_bind, value_loadSubjects] at h
    cases walked : subjects.mapM (subjectOutcome url) with
    | error f =>
      rw [walked] at h
      cases h
    | ok loaded =>
      rw [walked] at h
      cases h
      exact ⟨subjects, loaded, rfl, rfl, forall₂_of_mapM_eq_ok walked⟩

theorem subjects_of_load (h : (LoadedRegistry.load exported url).value = .ok r) :
    r.subjects = exported.subjectNames := by
  obtain ⟨subjects, loaded, listed, rfl, each⟩ := of_load h
  unfold RegistryExport.subjectNames LoadedRegistry.subjects Snapshot.ofOutcomes
  rw [listed]
  dsimp only
  rw [List.map_map]
  clear listed h
  induction each with
  | nil => rfl
  | cons first _ ih =>
    rw [List.map_cons, List.map_cons, ih]
    exact congrArg (· :: _) (of_subjectOutcome_eq_ok first).1

/-- The latest version of a subject has a tree that can be built. -/
theorem isWellFormed_of_latest (built : exported.IsBuildable)
    (h : (LoadedRegistry.load exported url).value = .ok r) {subject : String}
    {v : RegisteredVersion} (latest : r.latest subject = some v) :
    v.schema.root.IsWellFormed := by
  obtain ⟨subjects, loaded, listed, rfl, each⟩ := of_load h
  obtain ⟨versions, found, latest⟩ := Option.bind_eq_some_iff.mp latest
  have among : v ∈ versions := List.mem_of_find?_eq_some (isNewest_of_latestVersion latest).first
  have held : (subject, versions) ∈ (Snapshot.ofOutcomes loaded).subjects := mem_of_lookup found
  obtain ⟨outcomes, ho, same⟩ := List.mem_map.mp held
  cases same
  obtain ⟨entry, he, made⟩ := exists_of_forall₂ each.flip ho
  obtain ⟨-, entries, listedHere, comes⟩ := of_subjectOutcome_eq_ok made
  obtain ⟨outcome, hv, left⟩ := List.mem_filterMap.mp among
  cases outcome with
  | inr f => cases left
  | inl w =>
    cases left
    obtain ⟨placed, hp, came⟩ := exists_of_forall₂ comes.flip hv
    obtain ready | formed := isWellFormed_of_comesTo came
    · refine (built subjects listed).2 entry he entries listedHere v ?_
      rw [← ready]
      exact List.fst_mem_of_mem_zipIdx hp
    · exact formed

end LoadedRegistry

end SchemaReview
