import SchemaReview.Proofs.Compatibility.Diff
import SchemaReview.Proofs.Compatibility.Resolution

/-!
# The fields that two containers have in common

The comparison of two containers goes through the fields of the earlier one and compares those that
the later one has, too. Here the pairs of such fields are a list of their own, and the comparison is
a walk over that list, so that a law about it is proved for one pair and carried over the list.
-/
namespace SchemaReview

/-- The pairs of fields that a list of earlier fields and a later container have in common, in the
order of the earlier fields. -/
def sharedFields (fields : List Field) (after : Schema) : List (Field × Field) :=
  fields.filterMap fun old => (after.field? old.name).map fun new => (old, new)

theorem mem_sharedFields {fields : List Field} {after : Schema} {old new : Field} :
    (old, new) ∈ sharedFields fields after ↔ old ∈ fields ∧ after.field? old.name = some new := by
  unfold sharedFields
  rw [List.mem_filterMap]
  constructor
  · rintro ⟨f, hf, h⟩
    obtain ⟨g, hg, pair⟩ := Option.map_eq_some_iff.mp h
    cases pair
    exact ⟨hf, hg⟩
  · rintro ⟨hold, hnew⟩
    exact ⟨old, hold, by rw [hnew]; rfl⟩

namespace Comparison

/-- The entries for two fields of one name: those of their own, and those of the named types that
they stand for. -/
def pairChanges (c : Comparison) (path : Path) (pair : Field × Field) : Entries := do
  let own ← c.fieldChanges (path ++ [.name pair.1.name]) pair.1 pair.2
  let nested ← c.nestedChanges (path ++ [.name pair.1.name]) pair.1.type pair.2.type
  return own ++ nested

/-- The shared fields are compared pair by pair. -/
theorem commonChanges_eq (c : Comparison) (path : Path) (fields : List Field) (after : Schema) :
    c.commonChanges path fields after =
      List.flatten <$> (sharedFields fields after).mapM (c.pairChanges path) := by
  induction fields with
  | nil =>
    rw [commonChanges]
    rfl
  | cons old rest ih =>
    rw [commonChanges]
    cases found : after.field? old.name with
    | none =>
      have skipped : sharedFields (old :: rest) after = sharedFields rest after := by
        simp [sharedFields, found]
      rw [skipped, ← ih]
    | some new =>
      have first : sharedFields (old :: rest) after = (old, new) :: sharedFields rest after := by
        simp [sharedFields, found]
      rw [first, List.mapM_cons]
      dsimp only
      rw [ih]
      unfold pairChanges
      simp only [bind_assoc, map_eq_pure_bind, pure_bind, List.flatten_cons]

/-- The comparison of two containers in three parts: what is lost, what is new, what is shared. -/
theorem namedChanges_container (c : Comparison) (path : Path) {before after : Schema}
    (h : before.kind ≠ .enum) :
    c.namedChanges path before after = do
      let removed ← c.removals path before after
      let added ← c.additions path before after
      let changed ← List.flatten <$>
        (sharedFields before.fields after).mapM (c.pairChanges path)
      return c.headChanges path before after ++ removed ++ added ++ changed := by
  rw [namedChanges, if_neg h, ← commonChanges_eq]

theorem namedChanges_enum (c : Comparison) (path : Path) {before after : Schema}
    (h : before.kind = .enum) :
    c.namedChanges path before after =
      .ok (c.headChanges path before after ++ c.symbolChanges path before after) := by
  rw [namedChanges, if_pos h]
  rfl

/-- The named types that two types stand for, if they match. -/
def matchedNamed? (c : Comparison) (old new : Schema) : Option (Schema × Schema) :=
  match old.unwrapNamed, new.unwrapNamed with
  | some oldNamed, some newNamed =>
    if c.matchesNamed oldNamed newNamed then some (oldNamed, newNamed) else none
  | _, _ => none

theorem matchedNamed?_eq_some {c : Comparison} {old new oldNamed newNamed : Schema} :
    c.matchedNamed? old new = some (oldNamed, newNamed) ↔
      old.unwrapNamed = some oldNamed ∧ new.unwrapNamed = some newNamed ∧
        c.matchesNamed oldNamed newNamed = true := by
  unfold matchedNamed?
  cases old.unwrapNamed with
  | none => simp
  | some a =>
    cases new.unwrapNamed with
    | none => simp
    | some b =>
      simp only [Option.ite_none_right_eq_some, Option.some.injEq, Prod.mk.injEq]
      constructor
      · rintro ⟨matched, rfl, rfl⟩
        exact ⟨rfl, rfl, matched⟩
      · rintro ⟨rfl, rfl, matched⟩
        exact ⟨matched, rfl, rfl⟩

/-- The comparison goes on with a smaller type below a shared field. -/
theorem sizeOf_matched_lt {c : Comparison} {before after oldNamed newNamed : Schema}
    {old new : Field} (shared : (old, new) ∈ sharedFields before.fields after)
    (found : c.matchedNamed? old.type new.type = some (oldNamed, newNamed)) :
    sizeOf oldNamed < sizeOf before := by
  obtain ⟨hold, -⟩ := mem_sharedFields.mp shared
  obtain ⟨stands, -, -⟩ := matchedNamed?_eq_some.mp found
  exact Nat.lt_of_le_of_lt (Schema.sizeOf_unwrapNamed_le stands)
    (Schema.sizeOf_lt_of_mem_fields hold)

/-- Below two types, the comparison goes on with the named types that they stand for. -/
theorem nestedChanges_eq_matched (c : Comparison) (path : Path) (old new : Schema) :
    c.nestedChanges path old new =
      match c.matchedNamed? old new with
      | some pair => c.namedChanges path pair.1 pair.2
      | none => .ok [] := by
  rw [nestedChanges]
  unfold matchedNamed?
  split
  · rename_i oldNamed newNamed hold hnew
    rw [hold, hnew]
    dsimp only
    split
    · rfl
    · rfl
  · rename_i unmatched
    split
    · rename_i pair found
      split at found
      · rename_i a b ha hb
        exact (unmatched a b ha hb).elim
      · cases found
    · rfl

end Comparison
end SchemaReview
