import SchemaReview.Compatibility.Check
import SchemaReview.Proofs.Sorting
import SchemaReview.Proofs.Compatibility.Snapshots
import SchemaReview.Proofs.Compatibility.Verdict

/-!
# The verdict on a candidate

A candidate is compared with the versions that the mode looks at, and the entries of all of these
comparisons are merged, each once. The verdict is that of the comparisons: no breaking entry is lost
or made on the way. Which versions were looked at does not depend on the order in which they were
given, as long as each has a number of its own.
-/
namespace SchemaReview

/-! ### The versions that a candidate is compared with

Registered versions have their numbers, and schemas without one are numbered by their places. The
order of the versions is described here without the sort that makes it: ascending by number, and
among equal numbers as they were given. -/

/-- A version with its number, or with that of its place if it has none. -/
def PriorVersion.numbered (place : Nat) : PriorVersion → Int × SchemaInput
  | .registered v => (v.version, v.schema)
  | .bare s => (place, s)

/-- Versions with their numbers, in the order in which they were given. -/
def numberedVersions (prior : List PriorVersion) : List (Int × SchemaInput) :=
  prior.mapIdx fun i v => v.numbered (i + 1)

theorem numberFrom_eq_mapIdx (n : Nat) (prior : List PriorVersion) :
    numberFrom n prior = prior.mapIdx fun i v => v.numbered (i + n) := by
  induction prior generalizing n with
  | nil => rfl
  | cons v rest ih =>
    have shifted : (fun i (w : PriorVersion) => w.numbered (i + (n + 1))) =
        fun i w => w.numbered (i + 1 + n) := by
      funext i w
      rw [Nat.add_right_comm i 1 n, Nat.add_assoc]
    rw [List.mapIdx_cons, Nat.zero_add, ← shifted, ← ih]
    cases v with
    | registered v => rfl
    | bare s => rfl

/-- Whether a list holds some versions in ascending order, those of one number in the order in which
they were given. -/
structure IsOldestFirst (versions ordered : List (Int × SchemaInput)) : Prop where
  perm : ordered.Perm versions
  ascending : ordered.Pairwise fun a b => a.1 ≤ b.1
  stable : ∀ n, (ordered.filter fun v => v.1 == n) = versions.filter fun v => v.1 == n

/-- Whether a version has the highest number, and is the last one that has it. -/
structure IsLatest (versions : List (Int × SchemaInput)) (latest : Int × SchemaInput) : Prop where
  highest : ∀ v ∈ versions, v.1 ≤ latest.1
  last : (versions.filter fun v => v.1 == latest.1).getLast? = some latest

/-- Whether a list holds the versions that a mode looks at. -/
structure IsChecked (mode : Mode) (versions checked : List (Int × SchemaInput)) : Prop where
  all : mode.isTransitive = true → IsOldestFirst versions checked
  one : mode.isTransitive = false → ∃ latest, checked = [latest] ∧ IsLatest versions latest

section

variable {versions : List (Int × SchemaInput)}

theorem isOldestFirst_mergeSort (versions : List (Int × SchemaInput)) :
    IsOldestFirst versions (versions.mergeSort fun a b => a.1 ≤ b.1) := by
  obtain ⟨perm, ascending, stable⟩ := isSortedBy_mergeSort (fun v : Int × SchemaInput => v.1)
    (fun _ _ _ => le_trans) le_total versions
  exact ⟨perm, ascending, stable⟩

/-- The last one of versions that are in order is the latest. -/
theorem IsOldestFirst.isLatest {ordered : List (Int × SchemaInput)} {latest : Int × SchemaInput}
    (h : IsOldestFirst versions ordered) (last : ordered.getLast? = some latest) :
    IsLatest versions latest := by
  obtain ⟨earlier, rfl⟩ := List.getLast?_eq_some_iff.mp last
  refine ⟨fun v hv => ?_, ?_⟩
  · have listed := h.perm.mem_iff.mpr hv
    obtain hv | hv := List.mem_append.mp listed
    · exact (List.pairwise_append.mp h.ascending).2.2 v hv latest (List.mem_singleton.mpr rfl)
    · exact (List.mem_singleton.mp hv) ▸ le_refl _
  · rw [← h.stable, List.filter_append]
    simp

end

theorem isOldestFirst_orderVersions (prior : List PriorVersion) :
    IsOldestFirst (numberedVersions prior) (orderVersions prior) := by
  unfold orderVersions
  rw [numberFrom_eq_mapIdx]
  exact isOldestFirst_mergeSort _

/-- What a mode looks at: all versions, or the latest one only. -/
theorem isChecked_checkedAgainst (mode : Mode) {prior : List PriorVersion} (nonempty : prior ≠ []) :
    IsChecked mode (numberedVersions prior) (checkedAgainst mode prior) := by
  have ordered := isOldestFirst_orderVersions prior
  unfold checkedAgainst
  dsimp only
  refine ⟨fun transitive => ?_, fun single => ?_⟩
  · rw [if_pos transitive]
    exact ordered
  · rw [if_neg (by simp [single])]
    have found : orderVersions prior ≠ [] := by
      intro none
      have length := ordered.perm.length_eq
      simp [none, numberedVersions] at length
      exact nonempty (List.length_eq_zero_iff.mp length.symm)
    obtain ⟨latest, last⟩ := Option.isSome_iff_exists.mp (List.getLast?_isSome.mpr found)
    exact ⟨latest, by rw [last]; rfl, ordered.isLatest last⟩

theorem IsChecked.subset {mode : Mode} {versions checked : List (Int × SchemaInput)}
    (h : IsChecked mode versions checked) : checked ⊆ versions := by
  cases transitive : mode.isTransitive with
  | true => exact (h.all transitive).perm.subset
  | false =>
    obtain ⟨latest, rfl, isLatest⟩ := h.one transitive
    have found := List.mem_of_getLast? isLatest.last
    rintro v hv
    obtain rfl := List.mem_singleton.mp hv
    exact List.mem_of_mem_filter found

/-- The versions of a registry have numbers of their own, wherever they stand. -/
theorem numberedVersions_registered (versions : List RegisteredVersion) :
    numberedVersions (versions.map .registered) = versions.map fun v => (v.version, v.schema) := by
  unfold numberedVersions
  refine List.ext_getElem (by simp) fun i _ _ => ?_
  simp [PriorVersion.numbered]

/-- Versions in order with distinct numbers are in the only order that there is. -/
theorem IsOldestFirst.unique {versions others ordered ordered' : List (Int × SchemaInput)}
    (h : IsOldestFirst versions ordered) (h' : IsOldestFirst others ordered')
    (perm : versions.Perm others) (distinct : (versions.map Prod.fst).Nodup) :
    ordered = ordered' := by
  have same : ordered.Perm ordered' := h.perm.trans (perm.trans h'.perm.symm)
  refine List.Perm.eq_of_pairwise ?_ h.ascending h'.ascending same
  intro a b ha hb hab hba
  have mem : a ∈ versions := h.perm.mem_iff.mp ha
  have mem' : b ∈ versions := h.perm.mem_iff.mp (same.mem_iff.mpr hb)
  exact List.inj_on_of_nodup_map distinct mem mem' (Int.le_antisymm hab hba)

/-- The order in which versions with distinct numbers are given has no influence on what is
compared. -/
theorem checkedAgainst_perm (mode : Mode) {versions others : List RegisteredVersion}
    (perm : versions.Perm others) (distinct : (versions.map RegisteredVersion.version).Nodup) :
    checkedAgainst mode (versions.map .registered) =
      checkedAgainst mode (others.map .registered) := by
  have rearranged : (numberedVersions (versions.map .registered)).Perm
      (numberedVersions (others.map .registered)) := by
    rw [numberedVersions_registered, numberedVersions_registered]
    exact perm.map _
  have numbers : ((numberedVersions (versions.map .registered)).map Prod.fst).Nodup := by
    rw [numberedVersions_registered, List.map_map]
    exact distinct
  have same := (isOldestFirst_orderVersions _).unique (isOldestFirst_orderVersions _) rearranged
    numbers
  unfold checkedAgainst
  rw [same]

/-! ### Entries that are merged -/

section

variable {e r : DiffEntry} {entries added : List DiffEntry}

theorem addEntries_cons (entries : List DiffEntry) (e : DiffEntry) (rest : List DiffEntry) :
    addEntries entries (e :: rest) =
      addEntries (if entries.any (e.same ·) then entries else entries ++ [e]) rest := rfl

theorem addEntries_append (entries first second : List DiffEntry) :
    addEntries entries (first ++ second) = addEntries (addEntries entries first) second :=
  List.foldl_append

/-- Entries stay where they are when others are added. -/
theorem subset_addEntries : entries ⊆ addEntries entries added := by
  induction added generalizing entries with
  | nil => exact List.Subset.refl _
  | cons e rest ih =>
    rw [addEntries_cons]
    refine List.Subset.trans ?_ ih
    split
    · exact List.Subset.refl _
    · exact List.subset_append_left ..

/-- An entry that is added is there afterwards, or was there as an equal one. -/
theorem mem_addEntries_of_mem_added (h : e ∈ added) :
    ∃ r ∈ addEntries entries added, r = e ∨ e.same r = true := by
  induction added generalizing entries with
  | nil => cases h
  | cons first rest ih =>
    rw [addEntries_cons]
    obtain rfl | hrest := List.mem_cons.mp h
    · by_cases present : entries.any (e.same ·) = true
      · rw [if_pos present]
        obtain ⟨r, hr, same⟩ := List.any_eq_true.mp present
        exact ⟨r, subset_addEntries hr, .inr same⟩
      · rw [if_neg present]
        refine ⟨e, subset_addEntries ?_, .inl rfl⟩
        exact List.mem_append_right _ (List.mem_singleton.mpr rfl)
    · exact ih hrest

/-- No entry comes from anywhere else. -/
theorem of_mem_addEntries (h : r ∈ addEntries entries added) : r ∈ entries ∨ r ∈ added := by
  induction added generalizing entries with
  | nil => exact .inl h
  | cons e rest ih =>
    rw [addEntries_cons] at h
    obtain h | h := ih h
    · split at h
      · exact .inl h
      · obtain h | h := List.mem_append.mp h
        · exact .inl h
        · exact .inr ((List.mem_singleton.mp h) ▸ List.mem_cons_self)
    · exact .inr (List.mem_cons_of_mem _ h)

/-- No entry is added that is equal to one before it. -/
theorem pairwise_addEntries (h : entries.Pairwise fun r s => s.same r = false) :
    (addEntries entries added).Pairwise fun r s => s.same r = false := by
  induction added generalizing entries with
  | nil => exact h
  | cons e rest ih =>
    rw [addEntries_cons]
    refine ih ?_
    split
    · exact h
    · rename_i absent
      refine List.pairwise_append.mpr ⟨h, List.pairwise_singleton .., fun r hr s hs => ?_⟩
      obtain rfl := List.mem_singleton.mp hs
      exact Bool.eq_false_iff.mpr fun same => absent (List.any_eq_true.mpr ⟨r, hr, same⟩)

end

/-- The comparisons are made one after the other, and their entries are merged. -/
theorem collectEntries_eq (candidate : SchemaInput) (mode : Mode)
    (versions : List (Int × SchemaInput)) (entries : List DiffEntry) :
    collectEntries candidate mode versions entries =
      (fun lists => addEntries entries lists.flatten) <$>
        versions.mapM fun v => diff v.2 candidate mode := by
  induction versions generalizing entries with
  | nil => rfl
  | cons v rest ih =>
    obtain ⟨number, schema⟩ := v
    rw [collectEntries, List.mapM_cons]
    simp only [ih, map_eq_pure_bind, bind_assoc, pure_bind, List.flatten_cons, addEntries_append]

/-- What a result says about the comparisons with some versions. -/
structure Reports (versions : List (Int × SchemaInput))
    (differences : Int × SchemaInput → List DiffEntry) (result : CheckResult) : Prop where
  verdict : result.verdict = .incompatible ↔
    ∃ v ∈ versions, ∃ e ∈ differences v, e.breaking = true
  otherwise : result.verdict ≠ .incompatible → result.verdict = .compatible
  numbers : result.checkedVersions = versions.map Prod.fst
  complete : ∀ v ∈ versions, ∀ e ∈ differences v,
    ∃ r ∈ result.entries, r = e ∨ e.same r = true
  sound : ∀ r ∈ result.entries, ∃ v ∈ versions, r ∈ differences v
  distinct : result.entries.Pairwise fun r s => s.same r = false

/-- A check of a candidate against some versions fails if one of its comparisons does, and reports
on all of them if none does. -/
theorem compareAll_outcome (candidate : SchemaInput) (mode : Mode) (identifier : String)
    (versions : List (Int × SchemaInput)) :
    (∃ v ∈ versions, ∃ fault, diff v.2 candidate mode = .error fault ∧
      compareAll candidate mode identifier versions = .error (.type fault)) ∨
    ∃ differences result, (∀ v ∈ versions, diff v.2 candidate mode = .ok (differences v)) ∧
      compareAll candidate mode identifier versions = .ok result ∧
      Reports versions differences result := by
  unfold compareAll
  rw [collectEntries_eq]
  cases walked : versions.mapM fun v => diff v.2 candidate mode with
  | error fault =>
    obtain ⟨v, hv, failed⟩ := exists_of_mapM_eq_error walked
    exact .inl ⟨v, hv, fault, failed, rfl⟩
  | ok lists =>
    obtain ⟨differences, ran, rfl⟩ := exists_map_of_mapM_eq_ok walked
    refine .inr ⟨differences, _, ran, rfl, ?_⟩
    have breaking : hasBreaking (addEntries [] (versions.map differences).flatten) = true ↔
        ∃ v ∈ versions, ∃ e ∈ differences v, e.breaking = true := by
      rw [hasBreaking_addEntries]
      simp [hasBreaking]
    constructor
    · rw [← breaking]
      dsimp only
      split
      · rename_i h
        simp [h]
      · rename_i h
        simp [h]
    · dsimp only
      split
      · exact fun h => (h rfl).elim
      · exact fun _ => rfl
    · rfl
    · intro v hv e he
      refine mem_addEntries_of_mem_added (List.mem_flatten.mpr ⟨_, ?_, he⟩)
      exact List.mem_map_of_mem hv
    · intro r hr
      obtain hr | hr := of_mem_addEntries hr
      · cases hr
      · obtain ⟨list, hl, hr⟩ := List.mem_flatten.mp hr
        obtain ⟨v, hv, rfl⟩ := List.mem_map.mp hl
        exact ⟨v, hv, hr⟩
    · exact pairwise_addEntries .nil

theorem checkCompatible_value {candidate : SchemaInput} {prior : List PriorVersion} {mode : Mode}
    {identifier : String} (nonempty : prior ≠ []) :
    (checkCompatible candidate prior mode identifier).value =
      compareAll candidate mode identifier (checkedAgainst mode prior) := by
  unfold checkCompatible
  rw [if_neg (by simpa using nonempty)]
  rfl

/-- The numbered versions have the schemas that were given. -/
theorem exists_of_mem_numberedVersions {prior : List PriorVersion} {v : Int × SchemaInput}
    (h : v ∈ numberedVersions prior) : ∃ given ∈ prior, v.2 = given.schema := by
  obtain ⟨i, hi, rfl⟩ := List.mem_mapIdx.mp h
  refine ⟨prior[i], List.getElem_mem hi, ?_⟩
  cases prior[i] with
  | registered v => rfl
  | bare s => rfl

/-- Among well-formed schemas, the entries that are reported differ from each other, whichever of
two is compared with the other one. -/
theorem Reports.distinct_comm {candidate : SchemaInput} {mode : Mode}
    {versions : List (Int × SchemaInput)} {differences : Int × SchemaInput → List DiffEntry}
    {result : CheckResult} (h : Reports versions differences result)
    (ran : ∀ v ∈ versions, diff v.2 candidate mode = .ok (differences v))
    (hc : candidate.root.IsWellFormed) (hv : ∀ v ∈ versions, v.2.root.IsWellFormed) :
    result.entries.Pairwise fun r s => r.same s = false ∧ s.same r = false := by
  have shown : ∀ r ∈ result.entries, r.HasDistinctKeys := by
    intro r hr
    obtain ⟨v, hmem, found⟩ := h.sound r hr
    exact showsDistinctKeys_diff mode (hv v hmem) hc _ (ran v hmem) r found
  refine h.distinct.imp_of_mem fun {r s} hr hs different => ⟨?_, different⟩
  rw [DiffEntry.same_comm (shown r hr) (shown s hs)]
  exact different

/-- The verdict on a candidate is incompatible exactly if one of the comparisons that the mode asks
for has a breaking entry, and all entries of these comparisons are reported, each once. The order in
which registered versions of distinct numbers are given has no influence on the check. -/
theorem checkCompatible_verdict (candidate : SchemaInput) (mode : Mode) (identifier : String) :
    (∀ prior : List PriorVersion, prior ≠ [] →
      ∃ checked, IsChecked mode (numberedVersions prior) checked ∧
        ((∃ v ∈ checked, ∃ fault, diff v.2 candidate mode = .error fault ∧
          (checkCompatible candidate prior mode identifier).value = .error (.type fault)) ∨
        ∃ differences result,
          (∀ v ∈ checked, diff v.2 candidate mode = .ok (differences v)) ∧
          (checkCompatible candidate prior mode identifier).value = .ok result ∧
          Reports checked differences result ∧
          (candidate.root.IsWellFormed → (∀ v ∈ prior, v.schema.root.IsWellFormed) →
            result.entries.Pairwise fun r s => r.same s = false ∧ s.same r = false))) ∧
    (∀ versions others : List RegisteredVersion, versions.Perm others →
      (versions.map RegisteredVersion.version).Nodup →
      checkCompatible candidate (versions.map .registered) mode identifier =
        checkCompatible candidate (others.map .registered) mode identifier) := by
  constructor
  · intro prior nonempty
    have checks := isChecked_checkedAgainst mode nonempty
    refine ⟨checkedAgainst mode prior, checks, ?_⟩
    rw [checkCompatible_value nonempty]
    refine (compareAll_outcome candidate mode identifier _).imp_right ?_
    rintro ⟨differences, result, ran, made, reports⟩
    refine ⟨differences, result, ran, made, reports, fun hc hp => ?_⟩
    refine reports.distinct_comm ran hc fun v hv => ?_
    obtain ⟨given, hg, schema⟩ := exists_of_mem_numberedVersions (checks.subset hv)
    rw [schema]
    exact hp given hg
  · intro versions others perm distinct
    have same := checkedAgainst_perm mode perm distinct
    have empty : (versions.map PriorVersion.registered).isEmpty =
        (others.map PriorVersion.registered).isEmpty := by
      rw [List.isEmpty_map, List.isEmpty_map]
      exact perm.isEmpty_eq
    unfold checkCompatible
    rw [same, empty]

/-- A registered person whose home has a number of a given type. -/
def registeredPerson (number : Int) (word : String) : RegisteredVersion :=
  { version := number, schema := .model (personWith word) }

/-- The bare schema stands in the second place, so it is looked at before the seventh version. -/
theorem checkCompatible_verdict_person :
    (∃ result, (checkCompatible (.model (personWith "int"))
        [.registered (registeredPerson 7 "int"), .bare (.model (personWith "long"))]
        .backwardTransitive "person").value = .ok result ∧
      result.verdict = .incompatible ∧ result.checkedVersions = [2, 7] ∧
      result.entries.Pairwise fun r s => r.same s = false ∧ s.same r = false) ∧
    checkCompatible (.model (personWith "int"))
        ([registeredPerson 7 "int", registeredPerson 2 "long"].map .registered) .backward "person" =
      checkCompatible (.model (personWith "int"))
        ([registeredPerson 2 "long", registeredPerson 7 "int"].map .registered) .backward
        "person" := by
  have wellFormed : (personWith "int").IsWellFormed ∧ (personWith "long").IsWellFormed := by
    unfold Schema.IsWellFormed
    decide
  constructor
  · have value : (fun result => (result.verdict, result.checkedVersions)) <$>
        (checkCompatible (.model (personWith "int"))
          [.registered (registeredPerson 7 "int"), .bare (.model (personWith "long"))]
          .backwardTransitive "person").value = .ok (.incompatible, [2, 7]) := by
      cbv
    obtain ⟨result, made, shown⟩ := map_eq_ok.mp value
    obtain ⟨verdict, numbers⟩ := Prod.mk.inj shown
    obtain ⟨checked, -, ⟨v, -, fault, -, failed⟩ | ⟨differences, reported, -, ran, -, distinct⟩⟩ :=
      (checkCompatible_verdict (.model (personWith "int")) .backwardTransitive "person").1
        [.registered (registeredPerson 7 "int"), .bare (.model (personWith "long"))]
        (List.cons_ne_nil _ _)
    · rw [made] at failed
      cases failed
    · rw [made] at ran
      cases ran
      refine ⟨result, made, verdict, numbers, distinct wellFormed.1 ?_⟩
      refine List.forall_mem_cons.mpr ⟨wellFormed.1, ?_⟩
      exact List.forall_mem_singleton.mpr wellFormed.2
  · refine (checkCompatible_verdict (.model (personWith "int")) .backward "person").2 _ _ ?_ ?_
    · exact List.Perm.swap ..
    · decide

end SchemaReview
