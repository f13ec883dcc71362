import SchemaReview.Proofs.Compatibility.Check
import SchemaReview.Proofs.Registry.Loaded

/-!
# The latest version of a subject

A comparison of registries takes the latest version of a subject by a search for the highest number,
and a check of a candidate takes the last version after a stable sort. The search finds the first
version of the highest number and the sort ends with the last one. An entry that declares no number
is numbered by its place, so two entries of an export can come to one number; only then are the two
versions different elements of the list.
-/
namespace SchemaReview

/-! ### The numbers of entries -/

/-- The number of an entry at a position: that of its version, or else the one that it declares or
that counts its position. -/
def RegistryEntry.number? (position : Nat) : RegistryEntry → Option Int
  | .ready v => some v.version
  | .payload value => (versionNumber (declaredNumber position value)).toOption

/-- An export has some entries under a subject. -/
def RegistryExport.Holds (exported : RegistryExport) (subject : String)
    (entries : List RegistryEntry) : Prop :=
  ∃ subjects held, exported.toSubjects = .ok subjects ∧ (subject, held) ∈ subjects ∧
    held.toEntries = .ok entries

section

variable {url subject : String} {exported : RegistryExport} {snapshot : Snapshot}
  {versions : List RegisteredVersion}

/-- A version has the number of the entry that it comes from. -/
theorem number?_of_comesTo {position : Nat} {entry : RegistryEntry} {v : RegisteredVersion}
    (h : ComesTo url subject position entry (.inl v)) :
    entry.number? position = some v.version := by
  cases h with
  | ready v => rfl
  | loaded read =>
    unfold RegistryEntry.number?
    dsimp only
    rw [(of_readEntry_eq_ok read).1]
    rfl

/-- Outcomes without a failure are versions. -/
theorem forall₂_of_noFailure {placed : List (RegistryEntry × Nat)} {outcomes : List EntryOutcome}
    (h : List.Forall₂ (fun placed outcome => ComesTo url subject placed.2 placed.1 outcome)
      placed outcomes) (none : (sortedOut outcomes).2 = []) :
    List.Forall₂ (fun placed v => ComesTo url subject placed.2 placed.1 (.inl v)) placed
      (sortedOut outcomes).1 := by
  induction h with
  | nil => exact .nil
  | @cons placed outcome _ _ comes _ ih =>
    cases outcome with
    | inl v => exact .cons comes (ih none)
    | inr f => cases none

/-- If no failure is reported for a subject, then each of its entries comes to a version. -/
theorem comesTo_of_loadSnapshot (loaded : (loadSnapshot exported url).value = .ok snapshot)
    (held : (subject, versions) ∈ snapshot.subjects)
    (clean : ∀ f ∈ snapshot.failures, f.subject ≠ subject) :
    ∃ entries, exported.Holds subject entries ∧
      List.Forall₂ (fun placed v => ComesTo url subject placed.2 placed.1 (.inl v))
        entries.zipIdx versions := by
  unfold loadSnapshot at loaded
  cases listed : exported.toSubjects with
  | error f =>
    rw [listed] at loaded
    cases loaded
  | ok subjects =>
    rw [listed] at loaded
    dsimp only at loaded
    rw [value_loadSubjects] at loaded
    obtain ⟨outcomes, walked, rfl⟩ := map_eq_ok.mp loaded
    obtain ⟨found, among, same⟩ := List.mem_map.mp held
    cases same
    obtain ⟨given, hg, made⟩ := exists_of_forall₂ (forall₂_of_mapM_eq_ok walked).flip among
    obtain ⟨name, entries, read, comes⟩ := of_subjectOutcome_eq_ok made
    rw [← name] at comes
    refine ⟨entries, ⟨subjects, given.2, listed, ?_, read⟩, forall₂_of_noFailure comes ?_⟩
    · rw [name]
      exact hg
    · rw [List.eq_nil_iff_forall_not_mem]
      intro f hf
      exact clean f (List.mem_flatMap.mpr ⟨found, among, hf⟩) (subject_of_mem_sortedOut comes f hf)

end

/-! ### The versions of one number -/

/-- The versions of a number, with their places. -/
def bearersOf (versions : List RegisteredVersion) (number : Int) : List (RegisteredVersion × Nat) :=
  versions.zipIdx.filter fun placed => placed.1.version == number

section

variable {versions : List RegisteredVersion} {number : Int}

theorem map_fst_bearersOf :
    (bearersOf versions number).map Prod.fst = versions.filter fun v => v.version == number := by
  conv_rhs => rw [← List.zipIdx_map_fst 0 versions, List.filter_map]
  rfl

/-- The places of the versions of a number are ascending. -/
theorem pairwise_bearersOf :
    (bearersOf versions number).Pairwise fun a b => a.2 < b.2 := by
  have ascending : (versions.zipIdx.map Prod.snd).Pairwise (· < ·) := by
    rw [List.zipIdx_map_snd]
    exact List.pairwise_lt_range'
  exact (List.pairwise_map.mp ascending).filter _

/-- The first and the last version of a number stand in one place if there is no other one. -/
theorem place_eq_iff_length_bearersOf {first last : RegisteredVersion × Nat}
    (hfirst : (bearersOf versions number).head? = some first)
    (hlast : (bearersOf versions number).getLast? = some last) :
    first.2 = last.2 ↔ (bearersOf versions number).length = 1 := by
  have ascending : (bearersOf versions number).Pairwise fun a b => a.2 < b.2 := pairwise_bearersOf
  cases listed : bearersOf versions number with
  | nil =>
    rw [listed] at hfirst
    cases hfirst
  | cons head rest =>
    rw [listed] at hfirst hlast ascending
    cases hfirst
    cases rest with
    | nil =>
      cases hlast
      simp
    | cons next rest =>
      rw [List.getLast?_cons_cons] at hlast
      have before := (List.pairwise_cons.mp ascending).1 last (List.mem_of_getLast? hlast)
      simp only [List.length_cons]
      omega

/-- The search for the highest number finds the first version that has it. -/
theorem IsNewest.head?_bearersOf {latest : RegisteredVersion} (h : IsNewest versions latest) :
    ∃ place, (bearersOf versions latest.version).head? = some (latest, place) := by
  have found : ((bearersOf versions latest.version).map Prod.fst).head? = some latest := by
    rw [map_fst_bearersOf, List.head?_filter]
    exact h.first
  rw [List.head?_map] at found
  obtain ⟨⟨v, place⟩, head, rfl⟩ := Option.map_eq_some_iff.mp found
  exact ⟨place, head⟩

/-- The stable sort ends with the last version of the highest number. -/
theorem IsLatest.getLast?_bearersOf {latest : Int × SchemaInput}
    (h : IsLatest (versions.map fun v => (v.version, v.schema)) latest) :
    ∃ v place, (bearersOf versions latest.1).getLast? = some (v, place) ∧
      latest = (v.version, v.schema) := by
  have found : (((bearersOf versions latest.1).map Prod.fst).map
      fun v => (v.version, v.schema)).getLast? = some latest := by
    rw [map_fst_bearersOf, ← h.last, List.filter_map]
    rfl
  rw [List.map_map, List.getLast?_map] at found
  obtain ⟨⟨v, place⟩, last, rfl⟩ := Option.map_eq_some_iff.mp found
  exact ⟨v, place, last, rfl⟩

/-- As many versions have a number as entries come to it. -/
theorem length_bearersOf {entries : List (RegistryEntry × Nat)}
    (h : List.Forall₂ (fun placed v => placed.1.number? placed.2 = some v.version)
      entries versions) :
    (bearersOf versions number).length =
      entries.countP fun placed => placed.1.number? placed.2 == some number := by
  rw [← List.length_map Prod.fst, map_fst_bearersOf, ← List.countP_eq_length_filter]
  induction h with
  | nil => rfl
  | cons numbered _ ih =>
    rw [List.countP_cons, List.countP_cons, ih, numbered]
    rfl

end

/-! ### The two latest versions -/

/-- A subject of a loaded export has, for every entry, one version with the entry's number. The
latest version is the first one of the highest number, a check in a mode that is not transitive
compares a candidate with the last one of that number and nothing else, and these are one element of
the list exactly if one entry only comes to that number. -/
theorem latest_eq_checked_iff {exported : RegistryExport} {url subject : String}
    {snapshot : Snapshot} {versions : List RegisteredVersion} {mode : Mode}
    (loaded : (loadSnapshot exported url).value = .ok snapshot)
    (held : (subject, versions) ∈ snapshot.subjects)
    (clean : ∀ f ∈ snapshot.failures, f.subject ≠ subject) (nonempty : versions ≠ [])
    (single : mode.isTransitive = false) :
    ∃ entries, exported.Holds subject entries ∧
      List.Forall₂ (fun placed v => ComesTo url subject placed.2 placed.1 (.inl v) ∧
        placed.1.number? placed.2 = some v.version) entries.zipIdx versions ∧
      ∃ number latest first checked last,
        (∀ v ∈ versions, v.version ≤ number) ∧
        latestVersion versions = some latest ∧
        (bearersOf versions number).head? = some (latest, first) ∧
        (∀ candidate identifier,
          checkCompatible candidate (versions.map .registered) mode identifier =
            pure (compareAll candidate mode identifier [(checked.version, checked.schema)])) ∧
        (bearersOf versions number).getLast? = some (checked, last) ∧
        (first = last ↔
          (entries.zipIdx.countP fun placed => placed.1.number? placed.2 == some number) = 1) := by
  obtain ⟨entries, holds, comes⟩ := comesTo_of_loadSnapshot loaded held clean
  have numbered : List.Forall₂ (fun placed v => placed.1.number? placed.2 = some v.version)
      entries.zipIdx versions := comes.imp fun _ _ => number?_of_comesTo
  refine ⟨entries, holds, comes.imp fun _ _ h => ⟨h, number?_of_comesTo h⟩, ?_⟩
  obtain ⟨latest, found⟩ : ∃ latest, latestVersion versions = some latest := by
    cases versions with
    | nil => exact absurd rfl nonempty
    | cons v rest => exact ⟨_, rfl⟩
  have newest := isNewest_of_latestVersion found
  obtain ⟨first, head⟩ := newest.head?_bearersOf
  have given : versions.map PriorVersion.registered ≠ [] := by simpa using nonempty
  obtain ⟨compared, alone, isLatest⟩ := (isChecked_checkedAgainst mode given).one single
  rw [numberedVersions_registered] at isLatest
  obtain ⟨checked, last, final, rfl⟩ := isLatest.getLast?_bearersOf
  -- Both have the highest number, each being among the versions that the other one is above.
  have same : checked.version = latest.version := by
    have among : checked ∈ versions := by
      have listed : checked ∈ (bearersOf versions checked.version).map Prod.fst :=
        List.mem_map.mpr ⟨_, List.mem_of_getLast? final, rfl⟩
      rw [map_fst_bearersOf] at listed
      exact List.mem_of_mem_filter listed
    have mem : latest ∈ versions := List.mem_of_find?_eq_some newest.first
    exact le_antisymm (newest.highest checked among)
      (isLatest.highest (latest.version, latest.schema) (List.mem_map.mpr ⟨latest, mem, rfl⟩))
  dsimp only at final
  rw [same] at final
  refine ⟨latest.version, latest, first, checked, last, newest.highest, found, head, ?_, final, ?_⟩
  · intro candidate identifier
    unfold checkCompatible
    rw [if_neg (by simpa using nonempty), alone]
  · rw [← length_bearersOf numbered]
    exact place_eq_iff_length_bearersOf head final

/-- A version that was read from the name of a primitive type. -/
def wordVersion (number : Int) (word : String) : RegisteredVersion :=
  ⟨number, .document { format := .avro, root := wordType word }, .null,
    some ("\"" ++ word ++ "\"")⟩

/-- An export of two orders, of which only the first one declares its number. -/
def ordersFrom (number : Int) : RegistryExport :=
  listedExport [("orders",
    [.payload (.obj [("version", .int number), ("schemaText", .str "\"int\"")]),
      .payload (.obj [("schemaText", .str "\"string\"")])])]

theorem parse_string :
    parse "\"string\"" .avro = .ok { format := .avro, root := wordType "string" } := by
  have read : jsonOfSchemaText "\"string\"" = .ok (.str "string") :=
    jsonOfSchemaText_eq_ok.mpr (Json.ofText_of_spelled rfl (by cbv))
  exact parse_avro_eq_ok.mpr ⟨_, _, read, by cbv, rfl⟩

theorem entryOutcome_of_readEntry {url subject : String} {position : Nat} {value : Json}
    {v : RegisteredVersion}
    (read : readEntry url subject (declaredNumber position value) value = .ok v) :
    entryOutcome url subject position (.payload value) = .ok (.inl v) := by
  unfold entryOutcome
  dsimp only
  rw [read]

/-- An entry whose text is the name of a primitive type. -/
theorem readEntry_word {number : Int} {word : String} {members : List (String × Json)}
    (written : (Json.member? members "schemaText").getD (Json.memberOrNull members "schema") =
      .str ("\"" ++ word ++ "\""))
    (unnamed : Json.memberOrNull members "schemaType" = .null)
    (unidentified : Json.memberOrNull members "id" = .null)
    (parsed : parse ("\"" ++ word ++ "\"") .avro =
      .ok { format := .avro, root := wordType word }) :
    readEntry "" "orders" (.int number) (.obj members) = .ok (wordVersion number word) := by
  rw [readEntry_written written, unnamed, unidentified]
  change parse _ .avro >>= _ = _
  rw [parsed]
  rfl

/-- The second order is numbered by its place. -/
theorem value_loadSnapshot_ordersFrom (number : Int) :
    (loadSnapshot (ordersFrom number) "").value =
      .ok ⟨[("orders", [wordVersion number "int", wordVersion 2 "string"])], []⟩ := by
  have first : readEntry "" "orders" (.int number)
      (.obj [("version", .int number), ("schemaText", .str "\"int\"")]) =
        .ok (wordVersion number "int") := readEntry_word rfl rfl rfl parse_int
  have second : readEntry "" "orders" (.int 2) (.obj [("schemaText", .str "\"string\"")]) =
      .ok (wordVersion 2 "string") := readEntry_word rfl rfl rfl parse_string
  change (loadSubjects "" [("orders", .listed _)]).value = _
  rw [value_loadSubjects, List.mapM_cons, List.mapM_nil, subjectOutcome_eq rfl, entryOutcomes_cons,
    entryOutcomes_cons, entryOutcome_of_readEntry first, entryOutcome_of_readEntry second]
  rfl

/-- Where the first order declares the third number, it is the latest version of both. -/
theorem latest_eq_checked_iff_orders :
    (loadSnapshot (ordersFrom 3) "").value =
        .ok ⟨[("orders", [wordVersion 3 "int", wordVersion 2 "string"])], []⟩ ∧
      latestVersion [wordVersion 3 "int", wordVersion 2 "string"] = some (wordVersion 3 "int") ∧
      ∀ candidate identifier,
        checkCompatible candidate
            ([wordVersion 3 "int", wordVersion 2 "string"].map .registered) .backward identifier =
          pure (compareAll candidate .backward identifier
            [(3, (wordVersion 3 "int").schema)]) := by
  have loaded := value_loadSnapshot_ordersFrom 3
  have single : Mode.backward.isTransitive = false := rfl
  obtain ⟨entries, -, -, number, latest, first, checked, last, -, found, head, checks, final, -⟩ :=
    latest_eq_checked_iff loaded List.mem_cons_self nofun (List.cons_ne_nil _ _) single
  cases found
  -- The latest version has the highest number, and no other version has it.
  have numbered : wordVersion 3 "int" ∈
      (bearersOf [wordVersion 3 "int", wordVersion 2 "string"] number).map Prod.fst :=
    List.mem_map.mpr ⟨_, List.mem_of_head? head, rfl⟩
  rw [map_fst_bearersOf] at numbered
  obtain rfl : (wordVersion 3 "int").version = number := by
    simpa using (List.mem_filter.mp numbered).2
  cases final
  exact ⟨loaded, rfl, checks⟩

/-- Two orders have the second number, one declared and one counted. The latest version is the first
of them, and a candidate is compared with the other one. -/
theorem countedNumber_twoLatest :
    (loadSnapshot (ordersFrom 2) "").value =
        .ok ⟨[("orders", [wordVersion 2 "int", wordVersion 2 "string"])], []⟩ ∧
      latestVersion [wordVersion 2 "int", wordVersion 2 "string"] = some (wordVersion 2 "int") ∧
      (∀ candidate identifier,
        checkCompatible candidate
            ([wordVersion 2 "int", wordVersion 2 "string"].map .registered) .backward identifier =
          pure (compareAll candidate .backward identifier
            [(2, (wordVersion 2 "string").schema)])) ∧
      wordVersion 2 "int" ≠ wordVersion 2 "string" := by
  refine ⟨value_loadSnapshot_ordersFrom 2, rfl, fun candidate identifier => ?_, fun same => ?_⟩
  · have alone : checkedAgainst .backward
        ([wordVersion 2 "int", wordVersion 2 "string"].map .registered) =
          [(2, (wordVersion 2 "string").schema)] := by cbv
    unfold checkCompatible
    rw [if_neg (by simp), alone]
  · have words := congrArg (fun v => v.schema.root.typeName) same
    exact absurd words (by decide)

end SchemaReview
