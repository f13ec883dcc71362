import SchemaReview.Proofs.Compatibility.Fields
import SchemaReview.Proofs.Schema.WellFormed

/-!
# What entries show

An entry shows values of the two schemas that were compared. Where these are well-formed, no object
in an entry names a member twice, and equality of entries is that of values: it does not depend on
the side from which it is asked.
-/
namespace SchemaReview

/-- Whether no object that an entry shows names a member twice. -/
structure DiffEntry.HasDistinctKeys (e : DiffEntry) : Prop where
  before : e.before.hasDistinctKeys = true
  after : e.after.hasDistinctKeys = true

theorem DiffEntry.same_comm {e f : DiffEntry} (he : e.HasDistinctKeys) (hf : f.HasDistinctKeys) :
    e.same f = f.same e := by
  unfold same
  rw [Json.same_comm he.before hf.before, Json.same_comm he.after hf.after,
    Bool.beq_comm (a := e.kind), Bool.beq_comm (a := e.path), Bool.beq_comm (a := e.breaking),
    Bool.beq_comm (a := e.message)]

/-- Whether all entries that a run finds have a property. -/
def Finds (P : DiffEntry → Prop) (run : Entries) : Prop :=
  ∀ entries, run = .ok entries → ∀ e ∈ entries, P e

section

variable {α : Type} {P : DiffEntry → Prop} {run other : Entries} {entries : List DiffEntry}

theorem finds_ok (h : ∀ e ∈ entries, P e) :
    Finds P (.ok entries) := by
  intro found ran
  cases ran
  exact h

theorem Finds.append (h : Finds P run) (h' : Finds P other) :
    Finds P (do return (← run) ++ (← other)) := by
  intro entries ran
  obtain ⟨xs, hx, ran⟩ := bind_eq_ok.mp ran
  obtain ⟨ys, hy, ran⟩ := bind_eq_ok.mp ran
  obtain rfl := pure_eq_ok.mp ran
  exact List.forall_mem_append.mpr ⟨h xs hx, h' ys hy⟩

theorem finds_ite {p : Prop} [Decidable p] (h : p → Finds P run)
    (h' : ¬p → Finds P other) : Finds P (if p then run else other) := by
  by_cases hp : p
  · rw [if_pos hp]
    exact h hp
  · rw [if_neg hp]
    exact h' hp

/-- A walk that makes one entry for each element. -/
theorem finds_entries {xs : List α} {entry : α → Except TypeFault DiffEntry}
    (h : ∀ a ∈ xs, ∀ e, entry a = .ok e → P e) :
    Finds P (xs.mapM entry) := by
  have : Inhabited DiffEntry := ⟨{ kind := .incomparable, path := [] }⟩
  intro entries ran
  obtain ⟨made, hmade, rfl⟩ := exists_map_of_mapM_eq_ok ran
  intro e he
  obtain ⟨a, ha, rfl⟩ := List.mem_map.mp he
  exact h a ha _ (hmade a ha)

/-- A walk that makes a run for each element. -/
theorem finds_flatten {xs : List α} {run : α → Entries}
    (h : ∀ a ∈ xs, Finds P (run a)) :
    Finds P (List.flatten <$> xs.mapM run) := by
  intro entries ran
  obtain ⟨lists, walked, rfl⟩ := map_eq_ok.mp ran
  obtain ⟨found, hfound, rfl⟩ := exists_map_of_mapM_eq_ok walked
  intro e he
  obtain ⟨list, hl, he⟩ := List.mem_flatten.mp he
  obtain ⟨a, ha, rfl⟩ := List.mem_map.mp hl
  exact h a ha _ (hfound a ha) e he

end

/-- A list of texts names no member. -/
theorem hasDistinctKeys_texts (texts : List String) :
    (Json.arr (texts.map .str)).hasDistinctKeys = true := by
  rw [Json.hasDistinctKeys_arr]
  intro x hx
  obtain ⟨text, -, rfl⟩ := List.mem_map.mp hx
  rfl

theorem hasDistinctKeys_fieldSnapshot {byName : Bool} {f : Field} {shown : Json}
    (type : f.type.IsWellFormed) (default : f.default.hasDistinctKeys = true)
    (h : fieldSnapshot byName f = .ok shown) : shown.hasDistinctKeys = true := by
  unfold fieldSnapshot at h
  obtain ⟨signature, hs, h⟩ := bind_eq_ok.mp h
  obtain rfl := pure_eq_ok.mp h
  have typed := Schema.hasDistinctKeys_namedSignature type.name hs
  rw [Json.hasDistinctKeys_obj]
  have tag : (Json.ofOption .int f.tag).hasDistinctKeys = true := by
    cases f.tag with
    | none => rfl
    | some n => rfl
  unfold Json.present
  constructor
  · split
    · split <;> simp
    · split <;> simp
  · intro entry he
    simp only [List.mem_append, List.mem_cons, List.not_mem_nil, or_false] at he
    obtain ((rfl | rfl | rfl) | he) | he := he
    · rfl
    · exact typed
    · rfl
    · split at he
      · rw [List.mem_singleton.mp he]
        exact default
      · cases he
    · split at he
      · cases he
      · rw [List.mem_singleton.mp he]
        exact tag

namespace Comparison

section

variable (c : Comparison) {path : Path} {before after : Schema}

theorem showsDistinctKeys_typeChange (hb : before.IsWellFormed) (ha : after.IsWellFormed) :
    Finds DiffEntry.HasDistinctKeys (c.typeChange path before after) := by
  intro entries ran
  unfold typeChange at ran
  obtain ⟨old, hold, ran⟩ := bind_eq_ok.mp ran
  obtain ⟨new, hnew, ran⟩ := bind_eq_ok.mp ran
  obtain rfl := pure_eq_ok.mp ran
  refine List.forall_mem_singleton.mpr ⟨?_, ?_⟩
  · exact Schema.hasDistinctKeys_namedSignature hb.name hold
  · exact Schema.hasDistinctKeys_namedSignature ha.name hnew

theorem showsDistinctKeys_bySignature (hb : before.IsWellFormed) (ha : after.IsWellFormed) :
    Finds DiffEntry.HasDistinctKeys (do
      if ← c.signaturesDiffer before after then c.typeChange path before after
      else return []) := by
  intro entries ran
  obtain ⟨differs, -, ran⟩ := bind_eq_ok.mp ran
  cases differs with
  | true => exact c.showsDistinctKeys_typeChange hb ha entries ran
  | false =>
    cases ran
    simp

theorem hasDistinctKeys_of_mem_fieldDetails {old new : Field}
    (hold : old.documentation.hasDistinctKeys = true ∧ old.default.hasDistinctKeys = true)
    (hnew : new.documentation.hasDistinctKeys = true ∧ new.default.hasDistinctKeys = true) :
    ∀ e ∈ c.fieldDetails path old new, e.HasDistinctKeys := by
  have tags (n : Option Int) :
      (Json.obj [("tag", Json.ofOption .int n)]).hasDistinctKeys = true := by
    cases n with
    | none => rfl
    | some n => rfl
  have shown {f : Field} (default : f.default.hasDistinctKeys = true) :
      (if f.hasDefault then f.default else .null).hasDistinctKeys = true := by
    split
    · exact default
    · rfl
  unfold fieldDetails
  refine List.forall_mem_append.mpr ⟨?_, List.forall_mem_append.mpr ⟨?_, ?_⟩⟩
  · split
    · simp
    · exact List.forall_mem_singleton.mpr ⟨tags _, tags _⟩
  · split
    · exact List.forall_mem_singleton.mpr ⟨shown hold.2, shown hnew.2⟩
    · simp
  · split
    · exact List.forall_mem_singleton.mpr ⟨hold.1, hnew.1⟩
    · simp

theorem hasDistinctKeys_of_mem_headChanges (path : Path) (hb : before.IsWellFormed)
    (ha : after.IsWellFormed) :
    ∀ e ∈ c.headChanges path before after, e.HasDistinctKeys := by
  have qualifiers (q : Option String) : (Json.ofOption .str q).hasDistinctKeys = true := by
    cases q with
    | none => rfl
    | some q => rfl
  unfold headChanges
  refine List.forall_mem_append.mpr ⟨List.forall_mem_append.mpr ⟨?_, ?_⟩, ?_⟩
  · split
    · simp
    · exact List.forall_mem_singleton.mpr ⟨hb.name, ha.name⟩
  · split
    · simp
    · exact List.forall_mem_singleton.mpr ⟨qualifiers _, qualifiers _⟩
  · split
    · exact List.forall_mem_singleton.mpr ⟨hb.documentation, ha.documentation⟩
    · simp

theorem hasDistinctKeys_of_mem_symbolChanges :
    ∀ e ∈ c.symbolChanges path before after, e.HasDistinctKeys := by
  unfold symbolChanges
  split
  · simp
  · exact List.forall_mem_singleton.mpr ⟨hasDistinctKeys_texts _, hasDistinctKeys_texts _⟩

theorem showsDistinctKeys_removals (hb : before.IsWellFormed) :
    Finds DiffEntry.HasDistinctKeys (c.removals path before after) := by
  unfold removals
  refine finds_entries fun f hf e he => ?_
  obtain ⟨shown, hs, he⟩ := bind_eq_ok.mp he
  obtain rfl := pure_eq_ok.mp he
  have hmem := List.mem_of_mem_filter hf
  exact ⟨hasDistinctKeys_fieldSnapshot (hb.field hmem) (hb.fieldValues hmem).2 hs, rfl⟩

theorem showsDistinctKeys_additions (ha : after.IsWellFormed) :
    Finds DiffEntry.HasDistinctKeys (c.additions path before after) := by
  unfold additions
  refine finds_entries fun f hf e he => ?_
  obtain ⟨shown, hs, he⟩ := bind_eq_ok.mp he
  obtain rfl := pure_eq_ok.mp he
  have hmem := List.mem_of_mem_filter hf
  exact ⟨rfl, hasDistinctKeys_fieldSnapshot (ha.field hmem) (ha.fieldValues hmem).2 hs⟩

end

/-- What is found of two containers is found of their attributes, of the fields that only one side
has, and of the pairs of fields that both have. -/
theorem finds_namedChanges {P : DiffEntry → Prop} {c : Comparison} {path : Path}
    {before after : Schema} (other : before.kind ≠ .enum)
    (head : ∀ e ∈ c.headChanges path before after, P e)
    (lost : Finds P (c.removals path before after))
    (gained : Finds P (c.additions path before after))
    (pairs : ∀ pair ∈ sharedFields before.fields after, Finds P (c.pairChanges path pair)) :
    Finds P (c.namedChanges path before after) := by
  rw [namedChanges_container c path other]
  intro entries ran
  obtain ⟨removed, hr, ran⟩ := bind_eq_ok.mp ran
  obtain ⟨added, hadd, ran⟩ := bind_eq_ok.mp ran
  obtain ⟨changed, hc, ran⟩ := bind_eq_ok.mp ran
  obtain rfl := pure_eq_ok.mp ran
  simp only [List.forall_mem_append]
  exact ⟨⟨⟨head, lost removed hr⟩, gained added hadd⟩, finds_flatten pairs changed hc⟩

/-- The induction follows the named types downwards. -/
theorem showsDistinctKeys_namedChanges (c : Comparison) {before after : Schema} (path : Path)
    (hb : before.IsWellFormed) (ha : after.IsWellFormed) :
    Finds DiffEntry.HasDistinctKeys (c.namedChanges path before after) := by
  have head := c.hasDistinctKeys_of_mem_headChanges path hb ha
  by_cases enum : before.kind = .enum
  · rw [namedChanges_enum c path enum]
    exact finds_ok
      (List.forall_mem_append.mpr ⟨head, c.hasDistinctKeys_of_mem_symbolChanges⟩)
  refine finds_namedChanges enum head (c.showsDistinctKeys_removals hb)
    (c.showsDistinctKeys_additions ha) fun pair hp => ?_
  obtain ⟨old, new⟩ := pair
  obtain ⟨hold, found⟩ := mem_sharedFields.mp hp
  have hnew := (Schema.of_field?_eq_some found).1
  have oldType := hb.field hold
  have newType := ha.field hnew
  unfold pairChanges
  rw [fieldChanges_eq]
  refine Finds.append ?_ ?_
  · refine Finds.append ?_ (finds_ok
      (c.hasDistinctKeys_of_mem_fieldDetails (hb.fieldValues hold) (ha.fieldValues hnew)))
    unfold fieldTypeEntries
    exact finds_ite (fun _ => c.showsDistinctKeys_typeChange oldType newType)
      fun _ => c.showsDistinctKeys_bySignature oldType newType
  · rw [nestedChanges_eq_matched]
    cases matched : c.matchedNamed? old.type new.type with
    | none => exact finds_ok (by simp)
    | some named =>
      obtain ⟨oldNamed, newNamed⟩ := named
      have smaller : sizeOf oldNamed < sizeOf before := sizeOf_matched_lt hp matched
      obtain ⟨oldStands, newStands, -⟩ := matchedNamed?_eq_some.mp matched
      exact showsDistinctKeys_namedChanges c _
        (oldType.node (Schema.of_unwrapNamed_eq_some oldStands).1)
        (newType.node (Schema.of_unwrapNamed_eq_some newStands).1)
termination_by sizeOf before

end Comparison

theorem showsDistinctKeys_diff {before after : SchemaInput} (mode : Mode)
    (hb : before.root.IsWellFormed) (ha : after.root.IsWellFormed) :
    Finds DiffEntry.HasDistinctKeys (diff before after mode) := by
  unfold diff Comparison.rootChanges
  dsimp only
  refine finds_ite (fun _ => ?_) fun _ => ?_
  · refine finds_ite (fun _ => ?_) fun _ =>
      Comparison.showsDistinctKeys_typeChange _ hb ha
    exact finds_ok (List.forall_mem_singleton.mpr ⟨rfl, rfl⟩)
  · exact finds_ite (fun _ => Comparison.showsDistinctKeys_namedChanges _ [] hb ha)
      fun _ => Comparison.showsDistinctKeys_bySignature _ hb ha

end SchemaReview
