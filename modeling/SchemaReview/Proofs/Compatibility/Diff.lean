import SchemaReview.Compatibility.Diff
import SchemaReview.Proofs.Outcome

/-!
# What a difference without breaking entries says

Each part of a comparison is read backwards: from the entries that it gives, none of them breaking,
to what holds of the two sides.
-/
namespace SchemaReview

@[simp] theorem hasBreaking_append (a b : List DiffEntry) :
    hasBreaking (a ++ b) = (hasBreaking a || hasBreaking b) := List.any_append

theorem hasBreaking_eq_false {entries : List DiffEntry} :
    hasBreaking entries = false ↔ ∀ e ∈ entries, e.breaking = false := by
  simp [hasBreaking]

namespace Comparison

variable {c : Comparison} {path : Path} {before after : Schema} {entries : List DiffEntry}

theorem hasBreaking_typeChange (h : c.typeChange path before after = .ok entries) :
    hasBreaking entries = Schema.isBreakingChange c.byName c.mode before after := by
  unfold typeChange at h
  obtain ⟨old, ho, h⟩ := bind_eq_ok.mp h
  obtain ⟨new, hn, h⟩ := bind_eq_ok.mp h
  obtain rfl := pure_eq_ok.mp h
  simp [hasBreaking]

theorem signaturesDiffer_eq_ok {differs : Bool}
    (h : c.signaturesDiffer before after = .ok differs) :
    ∃ old new, before.namedSignature c.byName = .ok old ∧
      after.namedSignature c.byName = .ok new ∧ differs = !old.equals new := by
  unfold signaturesDiffer at h
  obtain ⟨old, ho, h⟩ := bind_eq_ok.mp h
  obtain ⟨new, hn, h⟩ := bind_eq_ok.mp h
  obtain rfl := pure_eq_ok.mp h
  exact ⟨old, new, ho, hn, rfl⟩

/-- A field that is added without a default is a breaking entry. -/
theorem hasDefault_of_additions (h : c.additions path before after = .ok entries)
    (safe : hasBreaking entries = false) (checking : c.mode.isChecking = true)
    (kind : before.kind ≠ .file) {f : Field} (hf : f ∈ after.fields)
    (new : before.field? f.name = none) : f.hasDefault = true := by
  unfold additions at h
  have hmem : f ∈ after.fields.filter fun f => (before.field? f.name).isNone := by
    simp [hf, new]
  obtain ⟨e, he, hfe⟩ := of_mapM_eq_ok h f hmem
  obtain ⟨shown, hs, hfe⟩ := bind_eq_ok.mp hfe
  obtain rfl := pure_eq_ok.mp hfe
  have := hasBreaking_eq_false.mp safe _ he
  simpa [checking, kind] using this

/-- A field that is removed without a default is a breaking entry. -/
theorem hasDefault_of_removals (h : c.removals path before after = .ok entries)
    (safe : hasBreaking entries = false) (checking : c.mode.isChecking = true)
    (kind : before.kind ≠ .file) {f : Field} (hf : f ∈ before.fields)
    (lost : after.field? f.name = none) : f.hasDefault = true := by
  unfold removals at h
  have hmem : f ∈ before.fields.filter fun f => (after.field? f.name).isNone := by
    simp [hf, lost]
  obtain ⟨e, he, hfe⟩ := of_mapM_eq_ok h f hmem
  obtain ⟨shown, hs, hfe⟩ := bind_eq_ok.mp hfe
  obtain rfl := pure_eq_ok.mp hfe
  have kept := hasBreaking_eq_false.mp safe _ he
  dsimp only at kept
  unfold removalBreaks at kept
  rw [beq_eq_false_iff_ne.mpr kind, if_neg Bool.false_ne_true] at kept
  split at kept
  · cases kept
  · simpa [checking] using kept

/-- A symbol that is lost is a breaking entry where old data has to stay readable. -/
theorem symbols_of_symbolChanges
    (safe : hasBreaking (c.symbolChanges path before after) = false)
    (backward : c.mode.checksBackward = true) :
    ∀ symbol ∈ before.symbols, symbol ∈ after.symbols := by
  unfold symbolChanges at safe
  split at safe
  · rename_i same
    simp only [sameSymbols, Bool.and_eq_true, beq_iff_eq] at same
    intro symbol hs
    exact same.1 ▸ hs
  · simp only [hasBreaking, List.any_cons, List.any_nil, Bool.or_false, Bool.or_eq_false_iff,
      Bool.and_eq_false_iff, backward, Bool.true_eq_false, false_or] at safe
    intro symbol hs
    by_contra hn
    have hmem : symbol ∈ before.symbols.filter fun s => !after.symbols.contains s := by
      simp [hs, hn]
    have hempty := safe.1.1
    rw [Bool.not_eq_false', List.isEmpty_iff] at hempty
    rw [hempty] at hmem
    cases hmem

/-- Whether one of two types is a container and the other an enum, or containers of two kinds. -/
def kindSwapped (before after : Schema) : Bool :=
  before.kind != after.kind && before.kind.isStructured && after.kind.isStructured

/-- The entries for the types of two fields of one name. -/
def fieldTypeEntries (c : Comparison) (path : Path) (before after : Schema) : Entries := do
  if kindSwapped before after then c.typeChange path before after
  else if ← c.signaturesDiffer before after then c.typeChange path before after
  else return []

/-- The entries for what two fields of one name have besides their types. -/
def fieldDetails (c : Comparison) (path : Path) (old new : Field) : List DiffEntry :=
  let tagText (t : Option Int) : String := match t with | some n => toString n | none => "None"
  let shownDefault (f : Field) : Json := if f.hasDefault then f.default else .null
  (if old.tag = new.tag then [] else
    [{ kind := .fieldTypeChanged, path := path,
       before := .obj [("tag", Json.ofOption .int old.tag)],
       after := .obj [("tag", Json.ofOption .int new.tag)], breaking := c.mode.isChecking,
       message := "Field number changed from " ++ tagText old.tag ++ " to " ++
         tagText new.tag }]) ++
  ((if old.hasDefault != new.hasDefault || (old.hasDefault && !old.default.equals new.default) then
    [{ kind := .fieldDefaultChanged, path := path, before := shownDefault old,
       after := shownDefault new, message := "Default value changed" }]
  else []) ++
  (if docsDiffer old.documentation new.documentation then
    [{ kind := .docChanged, path := path, before := old.documentation,
       after := new.documentation, message := "Field documentation changed" }]
  else []))

theorem fieldChanges_eq (c : Comparison) (path : Path) (old new : Field) :
    c.fieldChanges path old new = do
      return (← c.fieldTypeEntries path old.type new.type) ++ c.fieldDetails path old new := by
  have regroup (run : Entries) (tags defaults docs : List DiffEntry) :
      (do return (← run) ++ tags ++ defaults ++ docs) =
        (do return (← run) ++ (tags ++ (defaults ++ docs)) : Entries) := by
    simp only [List.append_assoc]
  unfold fieldChanges fieldTypeEntries fieldDetails kindSwapped
  dsimp only
  split
  · exact regroup ..
  · rw [bind_assoc]
    congr 1
    funext differs
    cases differs with
    | true => exact regroup ..
    | false => exact regroup ..

/-- Two fields of one name, none of whose own changes is breaking, have types of equal signatures
or types that are read as the mode asks. -/
theorem types_of_fieldChanges {old new : Field} (h : c.fieldChanges path old new = .ok entries)
    (safe : hasBreaking entries = false) :
    Schema.isBreakingChange c.byName c.mode old.type new.type = false ∨
      ∃ a b, old.type.namedSignature c.byName = .ok a ∧
        new.type.namedSignature c.byName = .ok b ∧ a.equals b = true := by
  rw [fieldChanges_eq] at h
  obtain ⟨typeEntries, ht, h⟩ := bind_eq_ok.mp h
  obtain rfl := pure_eq_ok.mp h
  rw [hasBreaking_append, Bool.or_eq_false_iff] at safe
  unfold fieldTypeEntries at ht
  split at ht
  · exact .inl (hasBreaking_typeChange ht ▸ safe.1)
  · obtain ⟨differs, hd, ht⟩ := bind_eq_ok.mp ht
    obtain ⟨a, b, ha, hb, rfl⟩ := signaturesDiffer_eq_ok hd
    split at ht
    · exact .inl (hasBreaking_typeChange ht ▸ safe.1)
    · rename_i same
      exact .inr ⟨a, b, ha, hb, by simpa using same⟩

/-- A number that changes is a breaking entry. -/
theorem tag_of_fieldChanges {old new : Field} (h : c.fieldChanges path old new = .ok entries)
    (safe : hasBreaking entries = false) (checking : c.mode.isChecking = true) :
    old.tag = new.tag := by
  rw [fieldChanges_eq] at h
  obtain ⟨typeEntries, -, h⟩ := bind_eq_ok.mp h
  obtain rfl := pure_eq_ok.mp h
  by_contra changed
  simp [fieldDetails, changed, hasBreaking, checking] at safe

theorem namedChanges_eq_ok (h : c.namedChanges path before after = .ok entries)
    (safe : hasBreaking entries = false) :
    (before.kind = .enum ∧ hasBreaking (c.symbolChanges path before after) = false) ∨
      (before.kind ≠ .enum ∧ ∃ removed added changed,
        c.removals path before after = .ok removed ∧ hasBreaking removed = false ∧
        c.additions path before after = .ok added ∧ hasBreaking added = false ∧
        c.commonChanges path before.fields after = .ok changed ∧ hasBreaking changed = false) := by
  rw [namedChanges] at h
  split at h
  · rename_i kind
    obtain rfl := pure_eq_ok.mp h
    rw [hasBreaking_append, Bool.or_eq_false_iff] at safe
    exact .inl ⟨kind, safe.2⟩
  · rename_i kind
    obtain ⟨removed, hr, h⟩ := bind_eq_ok.mp h
    obtain ⟨added, ha, h⟩ := bind_eq_ok.mp h
    obtain ⟨changed, hc, h⟩ := bind_eq_ok.mp h
    obtain rfl := pure_eq_ok.mp h
    simp only [hasBreaking_append, Bool.or_eq_false_iff] at safe
    exact .inr ⟨kind, removed, added, changed, hr, safe.1.1.2, ha, safe.1.2, hc, safe.2⟩

/-- Each field that both sides have is compared in its own right. -/
theorem commonChanges_eq_ok {fields : List Field}
    (h : c.commonChanges path fields after = .ok entries) (safe : hasBreaking entries = false)
    {old new : Field} (hold : old ∈ fields) (hnew : after.field? old.name = some new) :
    ∃ own nested, c.fieldChanges (path ++ [.name old.name]) old new = .ok own ∧
      hasBreaking own = false ∧
      c.nestedChanges (path ++ [.name old.name]) old.type new.type = .ok nested ∧
      hasBreaking nested = false := by
  induction fields generalizing entries with
  | nil => cases hold
  | cons f rest ih =>
    rw [commonChanges] at h
    cases hf : after.field? f.name with
    | none =>
      rw [hf] at h
      obtain rfl | hrest := List.mem_cons.mp hold
      · rw [hf] at hnew
        cases hnew
      · exact ih h safe hrest
    | some g =>
      rw [hf] at h
      obtain ⟨own, ho, h⟩ := bind_eq_ok.mp h
      obtain ⟨nested, hn, h⟩ := bind_eq_ok.mp h
      obtain ⟨others, hr, h⟩ := bind_eq_ok.mp h
      obtain rfl := pure_eq_ok.mp h
      simp only [hasBreaking_append, Bool.or_eq_false_iff] at safe
      obtain rfl | hrest := List.mem_cons.mp hold
      · rw [hf] at hnew
        cases hnew
        exact ⟨own, nested, ho, safe.1.1, hn, safe.1.2⟩
      · exact ih hr safe.2 hrest

theorem nestedChanges_eq {old new oldNamed newNamed : Schema}
    (hold : old.unwrapNamed = some oldNamed) (hnew : new.unwrapNamed = some newNamed)
    (matched : c.matchesNamed oldNamed newNamed = true) :
    c.nestedChanges path old new = c.namedChanges path oldNamed newNamed := by
  rw [nestedChanges]
  split
  · rename_i a b ha hb
    rw [hold] at ha
    rw [hnew] at hb
    cases ha
    cases hb
    rw [if_pos matched]
  · rename_i hnone
    exact (hnone _ _ hold hnew).elim

end Comparison
end SchemaReview
