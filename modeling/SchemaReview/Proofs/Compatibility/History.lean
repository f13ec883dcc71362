import SchemaReview.Compatibility.Evolution
import SchemaReview.Proofs.Compatibility.Check

/-!
# What a history guarantees

Candidates are submitted to a subject one after another, and only compatible ones are registered.
Every registered version has then passed a comparison with the versions before it that the mode
looks at: with all of them, or with the latest one.
-/
namespace SchemaReview

/-- The histories that submissions lead to under a mode, with numbers in the order of registration.
A rejected candidate leaves the history as it is. -/
inductive IsReachable (mode : Mode) : List RegisteredVersion → Prop
  | empty : IsReachable mode []
  | submitted {history next : List RegisteredVersion} {candidate : SchemaInput} {subject : String}
      {result : CheckResult} (earlier : IsReachable mode history)
      (ran : (submit history (history.length + 1) candidate mode subject false).value =
        .ok (result, next)) : IsReachable mode next

/-- Whether the comparison of two registered versions has no breaking entry. -/
def Accepts (mode : Mode) (earlier later : RegisteredVersion) : Prop :=
  ∃ entries, diff earlier.schema later.schema mode = .ok entries ∧ hasBreaking entries = false

section

variable {mode : Mode} {history next : List RegisteredVersion} {candidate : SchemaInput}
  {subject : String} {number : Nat} {result : CheckResult}

/-- Registered versions are numbered from one on. -/
def IsNumbered (history : List RegisteredVersion) : Prop :=
  history.map RegisteredVersion.version = (List.range history.length).map fun i : Nat => (i : Int) + 1

theorem IsNumbered.append (h : IsNumbered history) {v : RegisteredVersion}
    (numbered : v.version = history.length + 1) : IsNumbered (history ++ [v]) := by
  unfold IsNumbered at *
  rw [List.map_append, h, List.length_append, List.length_singleton, List.range_succ,
    List.map_append, List.map_singleton, List.map_singleton, numbered]

theorem IsNumbered.ascending (h : IsNumbered history) :
    history.Pairwise fun v w => v.version ≤ w.version := by
  have numbers : (history.map RegisteredVersion.version).Pairwise (· ≤ ·) := by
    rw [h, List.pairwise_map]
    refine List.pairwise_lt_range.imp fun {i j} less => ?_
    omega
  exact List.pairwise_map.mp numbers

/-- Versions that were registered in order are compared in this order. -/
theorem IsNumbered.orderVersions_eq (h : IsNumbered history) :
    orderVersions (history.map .registered) = history.map fun v => (v.version, v.schema) := by
  have ordered : IsOldestFirst (numberedVersions (history.map .registered))
      (history.map fun v => (v.version, v.schema)) := by
    rw [numberedVersions_registered]
    exact ⟨List.Perm.refl _, List.pairwise_map.mpr h.ascending, fun _ => rfl⟩
  have distinct : ((numberedVersions (history.map .registered)).map Prod.fst).Nodup := by
    rw [numberedVersions_registered, List.map_map]
    change (history.map RegisteredVersion.version).Nodup
    rw [h]
    refine List.nodup_range.map fun i j same => ?_
    omega
  exact (isOldestFirst_orderVersions _).unique ordered (List.Perm.refl _) distinct

/-- A result that is not incompatible finds no breaking entry. -/
theorem Reports.accepted {versions : List (Int × SchemaInput)}
    {differences : Int × SchemaInput → List DiffEntry} (h : Reports versions differences result)
    (accepted : result.verdict ≠ .incompatible) {v : Int × SchemaInput} (hv : v ∈ versions) :
    hasBreaking (differences v) = false := by
  rw [hasBreaking_eq_false]
  intro e he
  by_contra breaking
  rw [Bool.not_eq_false] at breaking
  exact accepted (h.verdict.mpr ⟨v, hv, e, he, breaking⟩)

theorem submit_value :
    (submit history number candidate mode subject false).value =
      match (checkCompatible candidate (history.map .registered) mode subject).value with
      | .error f => .error f
      | .ok result =>
        if result.compatible then
          .ok (result, history ++ [{ version := number, schema := candidate }])
        else .ok (result, history) := by
  unfold submit
  simp only [bind, pure, Bool.or_false]
  cases (checkCompatible candidate (history.map .registered) mode subject).value with
  | error f => rfl
  | ok result =>
    dsimp only
    split
    · rfl
    · rfl

/-- A submission leaves the history as it is, or it continues it with a candidate that has no
breaking entry in its comparisons. -/
theorem submit_cases
    (h : (submit history number candidate mode subject false).value = .ok (result, next)) :
    next = history ∨
      next = history ++ [{ version := number, schema := candidate }] ∧
        ∀ v ∈ checkedAgainst mode (history.map .registered),
          ∃ entries, diff v.2 candidate mode = .ok entries ∧ hasBreaking entries = false := by
  rw [submit_value] at h
  split at h
  · cases h
  rename_i found check
  split at h
  · rename_i accepted
    obtain ⟨rfl, rfl⟩ := Prod.mk.inj (Except.ok.inj h)
    refine .inr ⟨rfl, ?_⟩
    by_cases first : history = []
    · subst first
      simp [checkedAgainst, orderVersions, numberFrom]
    rw [checkCompatible_value (by simpa using first)] at check
    obtain ⟨v, -, fault, -, failed⟩ | ⟨differences, reported, ran, made, reports⟩ :=
      compareAll_outcome candidate mode subject (checkedAgainst mode (history.map .registered))
    · rw [check] at failed
      cases failed
    · rw [check] at made
      cases made
      have safe : found.verdict ≠ .incompatible := by
        intro incompatible
        simp [CheckResult.compatible, Verdict.isCompatible, incompatible] at accepted
      exact fun v hv => ⟨_, ran v hv, reports.accepted safe hv⟩
  · obtain ⟨rfl, rfl⟩ := Prod.mk.inj (Except.ok.inj h)
    exact .inl rfl

/-- One submission keeps the numbering. -/
theorem isNumbered_of_isReachable (h : IsReachable mode history) : IsNumbered history := by
  induction h with
  | empty => rfl
  | submitted earlier ran ih =>
    obtain rfl | ⟨rfl, -⟩ := submit_cases ran
    · exact ih
    · exact ih.append (by simp)

end

/-- Whatever was submitted: under a transitive mode, no registered version has a breaking difference
from any version before it, and under any other mode none from the version right before it. -/
theorem accepts_of_isReachable {mode : Mode} {history : List RegisteredVersion}
    (h : IsReachable mode history) :
    (mode.isTransitive = true → history.Pairwise (Accepts mode)) ∧
      (mode.isTransitive = false → history.IsChain (Accepts mode)) := by
  induction h with
  | empty => exact ⟨fun _ => .nil, fun _ => .nil⟩
  | @submitted history next candidate subject result earlier ran ih =>
    have ordered := (isNumbered_of_isReachable earlier).orderVersions_eq
    obtain rfl | ⟨rfl, safe⟩ := submit_cases ran
    · exact ih
    unfold checkedAgainst at safe
    rw [ordered] at safe
    refine ⟨fun transitive => ?_, fun single => ?_⟩
    · rw [if_pos transitive] at safe
      refine List.pairwise_append.mpr ⟨ih.1 transitive, List.pairwise_singleton .., ?_⟩
      intro v hv w hw
      obtain rfl := List.mem_singleton.mp hw
      exact safe _ (List.mem_map_of_mem hv)
    · rw [if_neg (by simp [single])] at safe
      refine List.isChain_append.mpr ⟨ih.2 single, List.isChain_singleton _, ?_⟩
      intro v hv w hw
      obtain rfl := Option.mem_some.mp hw
      refine safe (v.version, v.schema) ?_
      rw [List.getLast?_map, hv]
      exact List.mem_singleton.mpr rfl

/-- A person whose home has an integer as its number is registered, one whose home has a text is
rejected, and one whose home has a long number is registered as the second version. -/
theorem accepts_of_isReachable_person :
    IsReachable .backwardTransitive [registeredPerson 1 "int", registeredPerson 2 "long"] ∧
      Accepts .backwardTransitive (registeredPerson 1 "int") (registeredPerson 2 "long") := by
  have step (word : String) {history next : List RegisteredVersion}
      (h : IsReachable .backwardTransitive history)
      (ran : Prod.snd <$> (submit history (history.length + 1) (.model (personWith word))
        .backwardTransitive "person" false).value = .ok next) :
      IsReachable .backwardTransitive next := by
    obtain ⟨⟨result, continued⟩, made, rfl⟩ := map_eq_ok.mp ran
    exact .submitted h made
  have first : IsReachable .backwardTransitive [registeredPerson 1 "int"] :=
    step "int" .empty (by cbv)
  have rejected : IsReachable .backwardTransitive [registeredPerson 1 "int"] :=
    step "string" first (by cbv)
  have second : IsReachable .backwardTransitive
      [registeredPerson 1 "int", registeredPerson 2 "long"] :=
    step "long" rejected (by cbv)
  have accepted := (accepts_of_isReachable second).1 rfl
  exact ⟨second, List.rel_of_pairwise_cons accepted (List.mem_singleton.mpr rfl)⟩

end SchemaReview
