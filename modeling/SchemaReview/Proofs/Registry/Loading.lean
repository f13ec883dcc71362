import SchemaReview.Proofs.Compatibility.Batch
import SchemaReview.Registry.Snapshot

/-!
# What loading keeps of an export

Every entry of an export comes to a version or to a failure that is reported, and the snapshot holds
what came of all of them, in their order. One kind of entry does neither: its version is declared as
a null, a list, an object or an infinity. No number is made of such a value, and the failure to do so
is not among those that are reported, so the loading stops there.
-/
namespace SchemaReview

/-! ### One entry -/

/-- A value of which no version number is made, with the failure that this is, where that failure is
not among those that are reported. -/
inductive IsNoNumber : Json → Failure → Prop where
  | null : IsNoNumber .null (.type (.notIntegerLike "NoneType"))
  | arr (items : List Json) : IsNoNumber (.arr items) (.type (.notIntegerLike "list"))
  | obj (members : List (String × Json)) : IsNoNumber (.obj members) (.type (.notIntegerLike "dict"))
  | infinity (negative : Bool) : IsNoNumber (.float (.infinity negative)) .infinityToInteger

theorem versionNumber_unreported_iff {value : Json} {f : Failure} :
    versionNumber value = .error f ∧ f.isReported = false ↔ IsNoNumber value f := by
  constructor
  · rintro ⟨failed, unreported⟩
    cases value with
    | null =>
      cases failed
      exact .null
    | arr items =>
      cases failed
      exact .arr items
    | obj members =>
      cases failed
      exact .obj members
    | int n => cases failed
    | bool b => cases failed
    | str s =>
      unfold versionNumber at failed
      dsimp only at failed
      split at failed
      · cases failed
      · cases failed
        cases unreported
    | float x =>
      cases x with
      | nan =>
        cases failed
        cases unreported
      | infinity negative =>
        cases failed
        exact .infinity negative
      | finite negative significand exponent => cases failed
  · rintro (_ | _ | _ | _) <;> exact ⟨rfl, rfl⟩

/-- The language of an entry's text is known: it is Avro if none is named. -/
def NamesFormat (schemaType : Json) : Prop :=
  schemaType.isTruthy = true → ∃ format, Format.ofText? schemaType.toText = some format

/-- A text is taken from a registry if its language is known, and the failure is reported if not. -/
theorem ofRegistry_cases (address : RegistryAddress) (text : String) (schemaType : Json) :
    (∃ format, Source.ofRegistry address text schemaType =
        .ok ⟨text, some format, some (.registry address)⟩ ∧ NamesFormat schemaType) ∨
      ∃ f, Source.ofRegistry address text schemaType = .error f ∧ f.isReported = true ∧
        ¬ NamesFormat schemaType := by
  unfold Source.ofRegistry
  split
  · rename_i falsy
    refine .inl ⟨.avro, rfl, fun truthy => ?_⟩
    simp [truthy] at falsy
  · rename_i truthy
    split
    · rename_i format known
      exact .inl ⟨format, rfl, fun _ => ⟨format, known⟩⟩
    · rename_i unknown
      refine .inr ⟨_, rfl, rfl, fun named => ?_⟩
      obtain ⟨format, known⟩ := named (by simpa using truthy)
      rw [unknown] at known
      cases known

/-- An entry stops the loading: its text would be read, but its version is no number. -/
inductive StopsLoading : RegistryEntry → Failure → Prop where
  | version {members : List (String × Json)} {number : Json} {text : String} {f : Failure}
    (declared : Json.member? members "version" = some number)
    (written : (Json.member? members "schemaText").getD (Json.memberOrNull members "schema") =
      .str text)
    (named : NamesFormat (Json.memberOrNull members "schemaType"))
    (noNumber : IsNoNumber number f) : StopsLoading (.payload (.obj members)) f

/-- An entry with a text is read step by step. -/
theorem readEntry_written {url subject text : String} {number : Json}
    {members : List (String × Json)}
    (written : (Json.member? members "schemaText").getD (Json.memberOrNull members "schema") =
      .str text) :
    readEntry url subject number (.obj members) = do
      let source ← Source.ofRegistry ⟨url, subject, number⟩ text
        (Json.memberOrNull members "schemaType")
      let version ← versionNumber number
      let document ← source.parse
      return ⟨version, .document document, Json.memberOrNull members "id", some text⟩ := by
  unfold readEntry
  dsimp only
  rw [written]

/-- An entry that is read comes to a version with the number that was asked for, whose schema is a
parsed document. -/
theorem of_readEntry_eq_ok {url subject : String} {number value : Json} {v : RegisteredVersion}
    (read : readEntry url subject number value = .ok v) :
    versionNumber number = .ok v.version ∧ v.schema.IsParsed := by
  cases value with
  | obj members =>
    cases held : (Json.member? members "schemaText").getD (Json.memberOrNull members "schema") with
    | str text =>
      rw [readEntry_written held] at read
      obtain ⟨source, -, read⟩ := bind_eq_ok.mp read
      obtain ⟨number, numbered, read⟩ := bind_eq_ok.mp read
      obtain ⟨document, parsed, read⟩ := bind_eq_ok.mp read
      obtain rfl := pure_eq_ok.mp read
      exact ⟨numbered, source.isParsed parsed⟩
    | _ =>
      unfold readEntry at read
      dsimp only at read
      rw [held] at read
      cases read
  | _ => cases read

/-- A number that was not declared is a position. -/
theorem declared_of_isNoNumber {position : Nat} {members : List (String × Json)} {f : Failure}
    (h : IsNoNumber (declaredNumber position (.obj members)) f) :
    Json.member? members "version" = some (declaredNumber position (.obj members)) := by
  unfold declaredNumber at h ⊢
  dsimp only at h ⊢
  cases declared : Json.member? members "version" with
  | none =>
    rw [declared] at h
    cases h
  | some number => rfl

/-- The loading stops at those entries that fail in a way that is not reported. -/
theorem readEntry_unreported_iff (url subject : String) (position : Nat) {value : Json}
    {f : Failure} :
    readEntry url subject (declaredNumber position value) value = .error f ∧
        f.isReported = false ↔ StopsLoading (.payload value) f := by
  constructor
  · rintro ⟨failed, unreported⟩
    cases value with
    | obj members =>
      cases held : (Json.member? members "schemaText").getD (Json.memberOrNull members "schema") with
      | str text =>
        rw [readEntry_written held] at failed
        obtain ⟨format, made, named⟩ | ⟨e, refused, reported, -⟩ := ofRegistry_cases
          ⟨url, subject, declaredNumber position (.obj members)⟩ text
          (Json.memberOrNull members "schemaType")
        · rw [made] at failed
          obtain failed | ⟨source, -, failed⟩ := bind_eq_error.mp failed
          · cases failed
          obtain failed | ⟨version, -, failed⟩ := bind_eq_error.mp failed
          · have noNumber := versionNumber_unreported_iff.mp ⟨failed, unreported⟩
            exact .version (declared_of_isNoNumber noNumber) held named noNumber
          obtain failed | ⟨d, -, failed⟩ := bind_eq_error.mp failed
          · rw [Source.isReported_of_parse failed] at unreported
            cases unreported
          · cases failed
        · rw [refused] at failed
          cases failed
          rw [reported] at unreported
          cases unreported
      | _ =>
        unfold readEntry at failed
        dsimp only at failed
        rw [held] at failed
        cases failed
        cases unreported
    | _ =>
      cases failed
      cases unreported
  · intro stops
    cases stops with
    | @version members number text _ declared written named noNumber =>
      have same : declaredNumber position (.obj members) = number := by
        unfold declaredNumber
        dsimp only
        rw [declared]
        rfl
      obtain ⟨failed, unreported⟩ := versionNumber_unreported_iff.mpr noNumber
      obtain ⟨format, made, -⟩ | ⟨e, -, -, unnamed⟩ := ofRegistry_cases
        ⟨url, subject, number⟩ text (Json.memberOrNull members "schemaType")
      · rw [same, readEntry_written written, made]
        exact ⟨bind_eq_error.mpr (.inr ⟨_, rfl, bind_eq_error.mpr (.inl failed)⟩), unreported⟩
      · exact (unnamed named).elim

/-- What comes of an entry: a version, or a failure that is reported. -/
abbrev EntryOutcome := RegisteredVersion ⊕ LoadFailure

/-- What comes of an entry at a position. -/
def entryOutcome (url subject : String) (position : Nat) :
    RegistryEntry → Except Failure EntryOutcome
  | .ready v => .ok (.inl v)
  | .payload value =>
    let number := declaredNumber position value
    match readEntry url subject number value with
    | .ok v => .ok (.inl v)
    | .error f =>
      if f.isReported then .ok (.inr ⟨subject, url, number, f.message⟩) else .error f

/-- Whether an entry at a position comes to a version or to a failure, the version that it is or
that it is read as, or the failure of reading it. -/
inductive ComesTo (url subject : String) (position : Nat) : RegistryEntry → EntryOutcome → Prop where
  | ready (v : RegisteredVersion) : ComesTo url subject position (.ready v) (.inl v)
  | loaded {value : Json} {v : RegisteredVersion}
    (read : readEntry url subject (declaredNumber position value) value = .ok v) :
    ComesTo url subject position (.payload value) (.inl v)
  | failed {value : Json} {f : Failure}
    (refused : readEntry url subject (declaredNumber position value) value = .error f) :
    ComesTo url subject position (.payload value)
      (.inr ⟨subject, url, declaredNumber position value, f.message⟩)

/-- An entry comes to a version or a failure, unless it stops the loading. -/
theorem entryOutcome_cases (url subject : String) (position : Nat) (entry : RegistryEntry) :
    (∃ outcome, entryOutcome url subject position entry = .ok outcome ∧
        ComesTo url subject position entry outcome ∧ ∀ f, ¬ StopsLoading entry f) ∨
      ∃ f, StopsLoading entry f ∧ entryOutcome url subject position entry = .error f := by
  cases entry with
  | ready v => exact .inl ⟨_, rfl, .ready v, nofun⟩
  | payload value =>
    have stops (f : Failure) :
        readEntry url subject (declaredNumber position value) value = .error f ∧
          f.isReported = false ↔ StopsLoading (.payload value) f :=
      readEntry_unreported_iff url subject position
    unfold entryOutcome
    dsimp only
    cases read : readEntry url subject (declaredNumber position value) value with
    | ok v =>
      refine .inl ⟨_, rfl, .loaded read, fun f stopped => ?_⟩
      rw [← stops, read] at stopped
      cases stopped.1
    | error f =>
      dsimp only
      split
      · rename_i reported
        refine .inl ⟨_, rfl, .failed read, fun g stopped => ?_⟩
        rw [← stops, read] at stopped
        cases stopped.1
        rw [reported] at stopped
        cases stopped.2
      · rename_i unreported
        exact .inr ⟨f, (stops f).mp ⟨read, by simpa using unreported⟩, rfl⟩

/-! ### The entries of a subject -/

/-- The versions and the failures among some outcomes. -/
def sortedOut (outcomes : List EntryOutcome) : List RegisteredVersion × List LoadFailure :=
  (outcomes.filterMap Sum.getLeft?, outcomes.filterMap Sum.getRight?)

/-- The outcomes of the entries of a subject, with positions counted from a number on. -/
def entryOutcomes (url subject : String) (position : Nat) (entries : List RegistryEntry) :
    Except Failure (List EntryOutcome) :=
  (entries.zipIdx position).mapM fun placed => entryOutcome url subject placed.2 placed.1

theorem entryOutcomes_cons (url subject : String) (position : Nat) (entry : RegistryEntry)
    (rest : List RegistryEntry) :
    entryOutcomes url subject position (entry :: rest) = do
      let outcome ← entryOutcome url subject position entry
      let others ← entryOutcomes url subject (position + 1) rest
      return outcome :: others := by
  unfold entryOutcomes
  rw [List.zipIdx_cons, List.mapM_cons]

/-- Loading the entries of a subject sorts out what comes of each of them. -/
theorem value_loadEntries (url subject : String) (position : Nat) (entries : List RegistryEntry) :
    (loadEntries url subject position entries).value =
      sortedOut <$> entryOutcomes url subject position entries := by
  induction entries generalizing position with
  | nil => rfl
  | cons entry rest ih =>
    rw [entryOutcomes_cons]
    cases entry with
    | ready v =>
      rw [loadEntries, Logged.value_bind, ih]
      cases entryOutcomes url subject (position + 1) rest <;> rfl
    | payload value =>
      rw [loadEntries, entryOutcome]
      dsimp only
      cases readEntry url subject (declaredNumber position value) value with
      | ok v =>
        dsimp only
        rw [Logged.value_bind, ih]
        cases entryOutcomes url subject (position + 1) rest <;> rfl
      | error f =>
        unfold Failure.isReported
        dsimp only
        split
        · rw [Logged.value_bind, Logged.value_bind, ih]
          cases entryOutcomes url subject (position + 1) rest <;> rfl
        · rfl

/-- Each entry of a subject comes to something, unless one of them stops the loading. -/
theorem entryOutcomes_cases (url subject : String) (position : Nat) (entries : List RegistryEntry) :
    (∃ outcomes, entryOutcomes url subject position entries = .ok outcomes ∧
        List.Forall₂ (fun placed outcome => ComesTo url subject placed.2 placed.1 outcome)
          (entries.zipIdx position) outcomes ∧
        ∀ entry ∈ entries, ∀ f, ¬ StopsLoading entry f) ∨
      ∃ entry ∈ entries, ∃ f, StopsLoading entry f ∧
        entryOutcomes url subject position entries = .error f := by
  induction entries generalizing position with
  | nil => exact .inl ⟨[], rfl, .nil, nofun⟩
  | cons entry rest ih =>
    rw [entryOutcomes_cons, List.zipIdx_cons]
    obtain ⟨outcome, made, comes, clear⟩ | ⟨f, stops, failed⟩ :=
      entryOutcome_cases url subject position entry
    · rw [made]
      obtain ⟨outcomes, others, each, rest⟩ | ⟨other, listed, f, stops, failed⟩ := ih (position + 1)
      · rw [others]
        exact .inl ⟨_, rfl, .cons comes each, List.forall_mem_cons.mpr ⟨clear, rest⟩⟩
      · rw [failed]
        exact .inr ⟨other, List.mem_cons_of_mem _ listed, f, stops, rfl⟩
    · rw [failed]
      exact .inr ⟨entry, List.mem_cons_self, f, stops, rfl⟩

/-- Some versions and failures are all that came of the entries of a subject, in their order. -/
structure AreAllOf (url subject : String) (entries : List RegistryEntry)
    (versions : List RegisteredVersion) (failures : List LoadFailure) : Prop where
  count : versions.length + failures.length = entries.length
  inOrder : ∃ outcomes,
    List.Forall₂ (fun placed outcome => ComesTo url subject placed.2 placed.1 outcome)
      entries.zipIdx outcomes ∧ (versions, failures) = sortedOut outcomes

theorem length_sortedOut (outcomes : List EntryOutcome) :
    (sortedOut outcomes).1.length + (sortedOut outcomes).2.length = outcomes.length := by
  induction outcomes with
  | nil => rfl
  | cons outcome rest ih =>
    unfold sortedOut at ih ⊢
    cases outcome with
    | inl v =>
      simp only [List.filterMap_cons, Sum.getLeft?, Sum.getRight?, List.length_cons] at ih ⊢
      omega
    | inr f =>
      simp only [List.filterMap_cons, Sum.getLeft?, Sum.getRight?, List.length_cons] at ih ⊢
      omega

theorem areAllOf_sortedOut {url subject : String} {entries : List RegistryEntry}
    {outcomes : List EntryOutcome}
    (h : List.Forall₂ (fun placed outcome => ComesTo url subject placed.2 placed.1 outcome)
      entries.zipIdx outcomes) :
    AreAllOf url subject entries (sortedOut outcomes).1 (sortedOut outcomes).2 := by
  refine ⟨?_, outcomes, h, rfl⟩
  rw [length_sortedOut, ← h.length_eq, List.length_zipIdx]

/-- A failure names the subject whose entry it is. -/
theorem subject_of_mem_sortedOut {url subject : String} {placed : List (RegistryEntry × Nat)}
    {outcomes : List EntryOutcome}
    (h : List.Forall₂ (fun placed outcome => ComesTo url subject placed.2 placed.1 outcome)
      placed outcomes) :
    ∀ f ∈ (sortedOut outcomes).2, f.subject = subject := by
  induction h with
  | nil => simp [sortedOut]
  | @cons placed outcome _ _ comes _ ih =>
    obtain ⟨entry, position⟩ := placed
    unfold sortedOut at ih ⊢
    cases comes with
    | ready v => exact ih
    | loaded read => exact ih
    | failed refused => exact List.forall_mem_cons.mpr ⟨rfl, ih⟩

/-! ### The snapshot -/

/-- What comes of the entries of a subject. -/
def subjectOutcome (url : String) (held : String × SubjectEntries) :
    Except Failure (String × List EntryOutcome) := do
  let entries ← held.2.toEntries
  let outcomes ← entryOutcomes url held.1 0 entries
  return (held.1, outcomes)

theorem subjectOutcome_eq {url subject : String} {held : SubjectEntries}
    {entries : List RegistryEntry} (listed : held.toEntries = .ok entries) :
    subjectOutcome url (subject, held) = (subject, ·) <$> entryOutcomes url subject 0 entries := by
  unfold subjectOutcome
  dsimp only
  rw [listed]
  rfl

/-- The snapshot of what came of the entries of each subject. -/
def Snapshot.ofOutcomes (loaded : List (String × List EntryOutcome)) : Snapshot :=
  ⟨loaded.map fun s => (s.1, (sortedOut s.2).1), loaded.flatMap fun s => (sortedOut s.2).2⟩

theorem value_loadSubjects (url : String) (subjects : List (String × SubjectEntries)) :
    (loadSubjects url subjects).value =
      Snapshot.ofOutcomes <$> subjects.mapM (subjectOutcome url) := by
  induction subjects with
  | nil => rfl
  | cons held rest ih =>
    obtain ⟨subject, entries⟩ := held
    rw [loadSubjects, List.mapM_cons]
    cases held : entries.toEntries with
    | error f =>
      unfold subjectOutcome
      dsimp only
      rw [held]
      rfl
    | ok listed =>
      rw [subjectOutcome_eq held]
      dsimp only
      rw [Logged.value_bind, value_loadEntries]
      cases entryOutcomes url subject 0 listed with
      | error f => rfl
      | ok outcomes =>
        change ((loadSubjects url rest).value.map _) = _
        rw [ih]
        cases rest.mapM (subjectOutcome url) <;> rfl

/-- An export whose subjects hold lists. -/
def listedExport (exported : List (String × List RegistryEntry)) : RegistryExport :=
  .subjects (exported.map fun held => (held.1, .listed held.2))

/-- What comes of the entries of a subject of a list, unless one of them stops the loading. -/
theorem subjectOutcomes_cases (url : String) (exported : List (String × List RegistryEntry)) :
    (∃ loaded, (exported.map fun held => (held.1, SubjectEntries.listed held.2)).mapM
          (subjectOutcome url) = .ok loaded ∧
        List.Forall₂ (fun held outcomes => outcomes.1 = held.1 ∧
          List.Forall₂ (fun placed outcome => ComesTo url held.1 placed.2 placed.1 outcome)
            held.2.zipIdx outcomes.2) exported loaded ∧
        ∀ held ∈ exported, ∀ entry ∈ held.2, ∀ f, ¬ StopsLoading entry f) ∨
      ∃ held ∈ exported, ∃ entry ∈ held.2, ∃ f, StopsLoading entry f ∧
        (exported.map fun held => (held.1, SubjectEntries.listed held.2)).mapM
          (subjectOutcome url) = .error f := by
  induction exported with
  | nil => exact .inl ⟨[], rfl, .nil, nofun⟩
  | cons held rest ih =>
    rw [List.map_cons, List.mapM_cons, subjectOutcome_eq rfl]
    obtain ⟨outcomes, made, each, clear⟩ | ⟨entry, listed, f, stops, failed⟩ :=
      entryOutcomes_cases url held.1 0 held.2
    · rw [made]
      obtain ⟨loaded, others, all, rest⟩ | ⟨other, among, entry, listed, f, stops, failed⟩ := ih
      · rw [others]
        exact .inl ⟨_, rfl, .cons ⟨rfl, each⟩ all, List.forall_mem_cons.mpr ⟨clear, rest⟩⟩
      · rw [failed]
        exact .inr ⟨other, List.mem_cons_of_mem _ among, entry, listed, f, stops, rfl⟩
    · rw [failed]
      exact .inr ⟨held, List.mem_cons_self, entry, listed, f, stops, rfl⟩

/-- The failures at the entries of a subject. -/
def Snapshot.failuresOf (s : Snapshot) (subject : String) : List LoadFailure :=
  s.failures.filter fun f => f.subject == subject

/-- A snapshot has every subject of an export, in order, with all that came of its entries. -/
def Snapshot.IsComplete (s : Snapshot) (url : String)
    (exported : List (String × List RegistryEntry)) : Prop :=
  List.Forall₂ (fun held loaded => loaded.1 = held.1 ∧
    AreAllOf url held.1 held.2 loaded.2 (s.failuresOf held.1)) exported s.subjects

section

variable {url : String} {exported : List (String × List RegistryEntry)}
  {loaded : List (String × List EntryOutcome)}

theorem subject_of_mem_failures
    (h : List.Forall₂ (fun held outcomes => outcomes.1 = held.1 ∧
      List.Forall₂ (fun placed outcome => ComesTo url held.1 placed.2 placed.1 outcome)
        held.2.zipIdx outcomes.2) exported loaded) :
    ∀ f ∈ (Snapshot.ofOutcomes loaded).failures, f.subject ∈ exported.map Prod.fst := by
  induction h with
  | nil => exact nofun
  | cons first _ ih =>
    intro f hf
    rw [List.map_cons, List.mem_cons]
    obtain hf | hf := List.mem_append.mp hf
    · exact .inl (subject_of_mem_sortedOut first.2 f hf)
    · exact .inr (ih f hf)

/-- Failures at other subjects are no failures of a subject. -/
theorem filter_subject_eq_nil {subject : String} {failures : List LoadFailure}
    (h : ∀ f ∈ failures, f.subject ≠ subject) :
    (failures.filter fun f => f.subject == subject) = [] := by
  rw [List.filter_eq_nil_iff]
  intro f hf
  simpa using h f hf

/-- The failures of each subject are those among what came of its entries. The induction goes on
with the failures of the subjects before. -/
theorem forall₂_failures
    (h : List.Forall₂ (fun held outcomes => outcomes.1 = held.1 ∧
      List.Forall₂ (fun placed outcome => ComesTo url held.1 placed.2 placed.1 outcome)
        held.2.zipIdx outcomes.2) exported loaded)
    (distinct : (exported.map Prod.fst).Nodup) (earlier : List LoadFailure)
    (apart : ∀ f ∈ earlier, f.subject ∉ exported.map Prod.fst) :
    List.Forall₂ (fun held outcomes => outcomes.1 = held.1 ∧
      AreAllOf url held.1 held.2 (sortedOut outcomes.2).1
        ((earlier ++ (Snapshot.ofOutcomes loaded).failures).filter fun f => f.subject == held.1))
      exported loaded := by
  induction h generalizing earlier with
  | nil => exact .nil
  | @cons held outcomes rest others first all ih =>
    rw [List.map_cons, List.nodup_cons] at distinct
    rw [List.map_cons] at apart
    have own := subject_of_mem_sortedOut first.2
    have failures : (Snapshot.ofOutcomes (outcomes :: others)).failures =
        (sortedOut outcomes.2).2 ++ (Snapshot.ofOutcomes others).failures := rfl
    rw [failures]
    refine .cons ⟨first.1, ?_⟩ ?_
    · have before : (earlier.filter fun f => f.subject == held.1) = [] :=
        filter_subject_eq_nil fun f hf same => apart f hf (same ▸ List.mem_cons_self)
      have after : ((Snapshot.ofOutcomes others).failures.filter fun f => f.subject == held.1) =
          [] := by
        refine filter_subject_eq_nil fun f hf same => distinct.1 ?_
        rw [← same]
        exact subject_of_mem_failures all f hf
      have kept : ((sortedOut outcomes.2).2.filter fun f => f.subject == held.1) =
          (sortedOut outcomes.2).2 := by
        rw [List.filter_eq_self]
        intro f hf
        simpa using own f hf
      rw [List.filter_append, List.filter_append, before, after, kept, List.nil_append,
        List.append_nil]
      exact areAllOf_sortedOut first.2
    · rw [← List.append_assoc]
      refine ih distinct.2 _ fun f hf => ?_
      obtain hf | hf := List.mem_append.mp hf
      · exact fun listed => apart f hf (List.mem_cons_of_mem _ listed)
      · rw [own f hf]
        exact distinct.1

end

/-- Loading an export gives a snapshot in which every subject has, in order, a version or a failure
for each of its entries, if no entry stops the loading. Otherwise the loading fails as one of those
entries does. -/
theorem loadSnapshot_complete (url : String) (exported : List (String × List RegistryEntry))
    (distinct : (exported.map Prod.fst).Nodup) :
    (∃ snapshot, (loadSnapshot (listedExport exported) url).value = .ok snapshot ∧
        snapshot.IsComplete url exported ∧
        ∀ held ∈ exported, ∀ entry ∈ held.2, ∀ f, ¬ StopsLoading entry f) ∨
      ∃ held ∈ exported, ∃ entry ∈ held.2, ∃ f, StopsLoading entry f ∧
        (loadSnapshot (listedExport exported) url).value = .error f := by
  have run : (loadSnapshot (listedExport exported) url).value = Snapshot.ofOutcomes <$>
      (exported.map fun held => (held.1, SubjectEntries.listed held.2)).mapM
        (subjectOutcome url) := value_loadSubjects url _
  rw [run]
  obtain ⟨loaded, walked, all, clear⟩ | ⟨held, hh, entry, he, f, stops, walked⟩ :=
    subjectOutcomes_cases url exported
  · rw [walked]
    refine .inl ⟨Snapshot.ofOutcomes loaded, rfl, ?_, clear⟩
    exact List.forall₂_map_right_iff.mpr (forall₂_failures all distinct [] nofun)
  · rw [walked]
    exact .inr ⟨held, hh, entry, he, f, stops, rfl⟩

/-- An export with a version that is described, one that is a bare number, and a subject without
versions. -/
def orderExport : List (String × List RegistryEntry) :=
  [("orders", [.payload (.obj [("version", .int 3), ("schemaText", .str "\"int\"")]),
    .payload (.int 5)]), ("users", [])]

/-- The bare number is reported, and everything else is loaded. -/
theorem loadSnapshot_complete_orders :
    (orderExport.map Prod.fst).Nodup ∧
      ∃ snapshot, (loadSnapshot (listedExport orderExport) "").value = .ok snapshot ∧
        snapshot.IsComplete "" orderExport := by
  have distinct : (orderExport.map Prod.fst).Nodup := by decide
  obtain ⟨snapshot, loaded, complete, -⟩ | ⟨held, hh, entry, he, f, stops, -⟩ :=
    loadSnapshot_complete "" orderExport distinct
  · exact ⟨distinct, snapshot, loaded, complete⟩
  · simp only [orderExport, List.mem_cons, List.not_mem_nil, or_false] at hh
    obtain rfl | rfl := hh
    · simp only [List.mem_cons, List.not_mem_nil, or_false] at he
      obtain rfl | rfl := he
      · cases stops with
        | version declared written named noNumber =>
          cases declared
          cases noNumber
      · cases stops
    · cases he

/-- An export whose only entry declares a null for its version. -/
def nullVersionExport : List (String × List RegistryEntry) :=
  [("orders", [.payload (.obj [("version", .null), ("schemaText", .str "\"int\"")])])]

/-- The loading of that export fails, and there is no snapshot. -/
theorem nullVersionExport_stops :
    (nullVersionExport.map Prod.fst).Nodup ∧
      (loadSnapshot (listedExport nullVersionExport) "").value =
        .error (.type (.notIntegerLike "NoneType")) ∧
      ¬ ∃ snapshot, (loadSnapshot (listedExport nullVersionExport) "").value = .ok snapshot := by
  have stopped : (loadSnapshot (listedExport nullVersionExport) "").value =
      .error (.type (.notIntegerLike "NoneType")) := by cbv
  refine ⟨by decide, stopped, ?_⟩
  rintro ⟨snapshot, loaded⟩
  rw [stopped] at loaded
  cases loaded

end SchemaReview
