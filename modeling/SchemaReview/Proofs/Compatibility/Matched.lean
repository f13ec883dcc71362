import SchemaReview.Proofs.Compatibility.Mirror
import SchemaReview.Proofs.Compatibility.Snapshots
import SchemaReview.Proofs.Compatibility.Likeness

/-!
# Reports of fields that were added or removed

A comparison goes down from the roots through fields of one name, as long as these stand for two
records or two messages that match. The entries for fields that only one side has are exactly those
of the containers that are put side by side in this way: none is missed, and none is made twice.
-/
namespace SchemaReview

/-- What two fields of one name stand for, where it is compared member by member: two records or
two messages, of the same name where names count. -/
structure StandFor (byName : Bool) (old new : Schema) (name : String) (oldNamed newNamed : Schema) :
    Prop where
  fields : ∃ f g, old.field? name = some f ∧ new.field? name = some g ∧
    f.type.unwrapNamed = some oldNamed ∧ g.type.unwrapNamed = some newNamed
  kind : oldNamed.kind = newNamed.kind
  nesting : oldNamed.kind.isNesting = true
  names : byName = true → oldNamed.qualifiedName.equals newNamed.qualifiedName = true

/-- Two containers that are compared field by field, at the path by which both are reached. -/
inductive MatchedAt (byName : Bool) (before after : Schema) : Path → Schema → Schema → Prop
  | roots (kind : before.kind = after.kind) (container : before.kind.isContainer = true) :
    MatchedAt byName before after [] before after
  | field {path : Path} {old new oldNamed newNamed : Schema} {name : String}
    (above : MatchedAt byName before after path old new)
    (step : StandFor byName old new name oldNamed newNamed) :
    MatchedAt byName before after (path ++ [.name name]) oldNamed newNamed

/-- The names of the fields that one container has and another one lacks. -/
def namesLost (old new : Schema) : List String :=
  (old.fields.filter fun f => (new.field? f.name).isNone).map FieldOf.name

/-- The paths of the entries of one kind, in the order of the entries. -/
def pathsOf (kind : DiffKind) (entries : List DiffEntry) : List Path :=
  (entries.filter fun e => e.kind == kind).map DiffEntry.path

/-- The kinds of the entries for fields that only one side has. -/
inductive IsLossOrGain : DiffKind → Prop
  | loss : IsLossOrGain .fieldRemoved
  | gain : IsLossOrGain .fieldAdded

/-- The names of the fields for which two containers give an entry of a kind. -/
def namesReported (kind : DiffKind) (old new : Schema) : List String :=
  match kind with
  | .fieldRemoved => namesLost old new
  | .fieldAdded => namesLost new old
  | _ => []

/-- Whether two containers that are put side by side give an entry of a kind for a field of this
path. -/
def IsReportedAt (kind : DiffKind) (byName : Bool) (before after : Schema) (path : Path) : Prop :=
  ∃ place old new name, MatchedAt byName before after place old new ∧
    name ∈ namesReported kind old new ∧ path = place ++ [.name name]

section

variable {byName : Bool} {before after old new oldNamed newNamed x y : Schema} {path : Path}
  {name : String} {kind : DiffKind}

theorem Kind.isContainer_of_isNesting {kind : Kind} (h : kind.isNesting = true) :
    kind.isContainer = true := by
  cases kind with
  | record | message => rfl
  | _ => cases h

theorem Kind.isNesting_of_isNamed {kind : Kind} (named : kind.isNamed = true)
    (container : kind.isContainer = true) : kind.isNesting = true := by
  cases kind with
  | record | message => rfl
  | enum => cases container
  | _ => cases named

theorem Kind.isStructured_of_isContainer {kind : Kind} (h : kind.isContainer = true) :
    kind.isStructured = true := by
  cases kind with
  | enum => rfl
  | _ => exact h

namespace MatchedAt

/-- All that is put side by side is below two containers of one kind. -/
theorem kinds (h : MatchedAt byName before after path x y) :
    before.kind = after.kind ∧ before.kind.isContainer = true := by
  induction h with
  | roots kind container => exact ⟨kind, container⟩
  | field _ _ ih => exact ih

/-- What is reached from the types of two fields is reached from their containers. -/
theorem cons (kinds : before.kind = after.kind ∧ before.kind.isContainer = true)
    (step : StandFor byName before after name oldNamed newNamed)
    (h : MatchedAt byName oldNamed newNamed path x y) :
    MatchedAt byName before after (.name name :: path) x y := by
  induction h with
  | roots _ _ => exact field (roots kinds.1 kinds.2) step
  | field _ last ih => exact field ih last

/-- The first step down is made from the roots. -/
theorem first (h : MatchedAt byName before after path x y) :
    (path = [] ∧ x = before ∧ y = after) ∨ ∃ name oldNamed newNamed rest,
      path = .name name :: rest ∧ StandFor byName before after name oldNamed newNamed ∧
        MatchedAt byName oldNamed newNamed rest x y := by
  induction h with
  | roots _ _ => exact .inl ⟨rfl, rfl, rfl⟩
  | field _ last ih =>
    obtain ⟨rfl, rfl, rfl⟩ | ⟨name, oldNamed, newNamed, rest, rfl, step, reached⟩ := ih
    · refine .inr ⟨_, _, _, [], rfl, last, roots last.kind ?_⟩
      exact Kind.isContainer_of_isNesting last.nesting
    · exact .inr ⟨name, oldNamed, newNamed, _, rfl, step, field reached last⟩

/-- At each path, at most one pair of containers is put side by side. -/
theorem unique {x' y' : Schema} (h : MatchedAt byName before after path x y)
    (h' : MatchedAt byName before after path x' y') : x = x' ∧ y = y' := by
  induction h generalizing x' y' with
  | roots _ _ =>
    obtain ⟨-, rfl, rfl⟩ | ⟨_, _, _, _, longer, -⟩ := h'.first
    · exact ⟨rfl, rfl⟩
    · cases longer
  | field above step ih =>
    generalize reached : _ ++ [Step.name _] = place at h'
    cases h' with
    | roots _ _ => simp at reached
    | field above' step' =>
      obtain ⟨rfl, last⟩ := List.append_inj' reached rfl
      cases last
      obtain ⟨rfl, rfl⟩ := ih above'
      obtain ⟨f, g, hf, hg, oldStands, newStands⟩ := step.fields
      obtain ⟨f', g', hf', hg', oldStands', newStands'⟩ := step'.fields
      obtain rfl := Option.some.inj (hf.symm.trans hf')
      obtain rfl := Option.some.inj (hg.symm.trans hg')
      exact ⟨Option.some.inj (oldStands.symm.trans oldStands'),
        Option.some.inj (newStands.symm.trans newStands')⟩

end MatchedAt

theorem IsReportedAt.kinds (h : IsReportedAt kind byName before after path) :
    before.kind = after.kind ∧ before.kind.isContainer = true := by
  obtain ⟨_, _, _, _, matched, -, -⟩ := h
  exact matched.kinds

/-- What is reported is reported by the roots, or below one of their fields. -/
theorem isReportedAt_iff (kinds : before.kind = after.kind ∧ before.kind.isContainer = true) :
    IsReportedAt kind byName before after path ↔
      (∃ name ∈ namesReported kind before after, path = [.name name]) ∨
        ∃ name oldNamed newNamed rest, StandFor byName before after name oldNamed newNamed ∧
          IsReportedAt kind byName oldNamed newNamed rest ∧ path = .name name :: rest := by
  constructor
  · rintro ⟨place, old, new, name, matched, reported, rfl⟩
    obtain ⟨rfl, rfl, rfl⟩ | ⟨first, oldNamed, newNamed, rest, rfl, step, below⟩ := matched.first
    · exact .inl ⟨name, reported, rfl⟩
    · exact .inr ⟨first, oldNamed, newNamed, _, step, ⟨rest, old, new, name, below, reported, rfl⟩,
        rfl⟩
  · rintro (⟨name, reported, rfl⟩ | ⟨first, oldNamed, newNamed, _, step, below, rfl⟩)
    · exact ⟨[], before, after, name, .roots kinds.1 kinds.2, reported, rfl⟩
    · obtain ⟨place, old, new, name, matched, reported, rfl⟩ := below
      exact ⟨_, old, new, name, matched.cons kinds step, reported, rfl⟩

/-- Two named types match exactly if they are of one kind and, where names count, of one name. -/
theorem matchesNamed_iff {c : Comparison} : c.matchesNamed oldNamed newNamed = true ↔
    oldNamed.kind = newNamed.kind ∧
      (c.byName = true → oldNamed.qualifiedName.equals newNamed.qualifiedName = true) := by
  unfold Comparison.matchesNamed
  cases c.byName <;> simp

theorem standFor_of_matched {c : Comparison} {f g : Field} (hf : before.field? name = some f)
    (hg : after.field? name = some g)
    (found : c.matchedNamed? f.type g.type = some (oldNamed, newNamed))
    (nesting : oldNamed.kind.isNesting = true) :
    StandFor c.byName before after name oldNamed newNamed := by
  obtain ⟨oldStands, newStands, matched⟩ := Comparison.matchedNamed?_eq_some.mp found
  obtain ⟨kind, names⟩ := matchesNamed_iff.mp matched
  exact ⟨⟨f, g, hf, hg, oldStands, newStands⟩, kind, nesting, names⟩

/-- The named types that a comparison goes on with below two shared fields are those that the fields
stand for, unless they are enums. -/
theorem standFor_iff {c : Comparison} (hb : before.IsWellFormed) :
    StandFor c.byName before after name oldNamed newNamed ↔ oldNamed.kind.isNesting = true ∧
      ∃ pair ∈ sharedFields before.fields after, pair.1.name = name ∧
        c.matchedNamed? pair.1.type pair.2.type = some (oldNamed, newNamed) := by
  constructor
  · intro h
    obtain ⟨f, g, hf, hg, oldStands, newStands⟩ := h.fields
    obtain ⟨hmem, rfl⟩ := Schema.of_field?_eq_some hf
    refine ⟨h.nesting, (f, g), mem_sharedFields.mpr ⟨hmem, hg⟩, rfl, ?_⟩
    exact Comparison.matchedNamed?_eq_some.mpr
      ⟨oldStands, newStands, matchesNamed_iff.mpr ⟨h.kind, h.names⟩⟩
  · rintro ⟨nesting, ⟨f, g⟩, shared, rfl, found⟩
    obtain ⟨hf, hg⟩ := mem_sharedFields.mp shared
    exact standFor_of_matched (hb.field?_of_mem hf) hg found nesting

/-! ### The entries of one kind -/

@[simp] theorem pathsOf_nil : pathsOf kind [] = [] := rfl

@[simp] theorem pathsOf_append (xs ys : List DiffEntry) :
    pathsOf kind (xs ++ ys) = pathsOf kind xs ++ pathsOf kind ys := by
  unfold pathsOf
  rw [List.filter_append, List.map_append]

theorem pathsOf_flatten (lists : List (List DiffEntry)) :
    pathsOf kind lists.flatten = lists.flatMap (pathsOf kind) := by
  induction lists with
  | nil => rfl
  | cons entries rest ih => rw [List.flatten_cons, pathsOf_append, ih, List.flatMap_cons]

theorem pathsOf_eq_nil {entries : List DiffEntry} (h : ∀ e ∈ entries, e.kind ≠ kind) :
    pathsOf kind entries = [] := by
  unfold pathsOf
  rw [List.map_eq_nil_iff, List.filter_eq_nil_iff]
  intro e he
  simpa using h e he

/-- Whether an entry is for something else than a field that only one side has. -/
def DiffEntry.IsChange (e : DiffEntry) : Prop := ∀ kind, IsLossOrGain kind → e.kind ≠ kind

theorem isChange_of_kind {e : DiffEntry} (removed : e.kind ≠ .fieldRemoved)
    (added : e.kind ≠ .fieldAdded) : e.IsChange := by
  rintro kind ⟨⟩
  · exact removed
  · exact added

end

namespace Comparison

section

variable {c : Comparison} {path : Path} {before after : Schema} {kind : DiffKind}

theorem isChange_typeChange : Finds DiffEntry.IsChange (c.typeChange path before after) := by
  intro entries ran
  unfold typeChange at ran
  obtain ⟨old, -, ran⟩ := bind_eq_ok.mp ran
  obtain ⟨new, -, ran⟩ := bind_eq_ok.mp ran
  obtain rfl := pure_eq_ok.mp ran
  exact List.forall_mem_singleton.mpr (isChange_of_kind (by simp) (by simp))

theorem isChange_bySignature : Finds DiffEntry.IsChange (do
    if ← c.signaturesDiffer before after then c.typeChange path before after else return []) := by
  intro entries ran
  obtain ⟨differs, -, ran⟩ := bind_eq_ok.mp ran
  cases differs with
  | true => exact isChange_typeChange entries ran
  | false =>
    cases ran
    simp

/-- The attributes of two fields of one name give no entry for a field that only one side has. -/
theorem isChange_fieldChanges (old new : Field) :
    Finds DiffEntry.IsChange (c.fieldChanges path old new) := by
  have details : ∀ e ∈ c.fieldDetails path old new, e.IsChange := by
    unfold fieldDetails
    refine List.forall_mem_append.mpr ⟨?_, List.forall_mem_append.mpr ⟨?_, ?_⟩⟩
    · split
      · simp
      · exact List.forall_mem_singleton.mpr (isChange_of_kind (by simp) (by simp))
    · split
      · exact List.forall_mem_singleton.mpr (isChange_of_kind (by simp) (by simp))
      · simp
    · split
      · exact List.forall_mem_singleton.mpr (isChange_of_kind (by simp) (by simp))
      · simp
  rw [fieldChanges_eq]
  refine Finds.append ?_ (finds_ok details)
  unfold fieldTypeEntries
  exact finds_ite (fun _ => isChange_typeChange) fun _ => isChange_bySignature

theorem isChange_headChanges : ∀ e ∈ c.headChanges path before after, e.IsChange := by
  unfold headChanges
  refine List.forall_mem_append.mpr ⟨List.forall_mem_append.mpr ⟨?_, ?_⟩, ?_⟩
  · split
    · simp
    · exact List.forall_mem_singleton.mpr (isChange_of_kind (by simp) (by simp))
  · split
    · simp
    · exact List.forall_mem_singleton.mpr (isChange_of_kind (by simp) (by simp))
  · split
    · exact List.forall_mem_singleton.mpr (isChange_of_kind (by simp) (by simp))
    · simp

theorem isChange_symbolChanges : ∀ e ∈ c.symbolChanges path before after, e.IsChange := by
  unfold symbolChanges
  split
  · simp
  · exact List.forall_mem_singleton.mpr (isChange_of_kind (by simp) (by simp))

theorem pathsOf_isChange (h : IsLossOrGain kind) {entries : List DiffEntry}
    (changes : ∀ e ∈ entries, e.IsChange) : pathsOf kind entries = [] :=
  pathsOf_eq_nil fun e he => changes e he kind h

end

/-- A walk that makes one entry of a kind for each field. -/
theorem pathsOf_entries (kind : DiffKind) (path : Path) {fields : List Field}
    {entry : Field → Except TypeFault DiffEntry} {entries : List DiffEntry}
    (h : ∀ f e, entry f = .ok e → e.kind = kind ∧ e.path = path ++ [.name f.name])
    (ran : fields.mapM entry = .ok entries) :
    entries.map DiffEntry.path = (fields.map FieldOf.name).map (fun n => path ++ [.name n]) ∧
      ∀ e ∈ entries, e.kind = kind := by
  have made := forall₂_of_mapM_eq_ok ran
  clear ran
  induction made with
  | nil => simp
  | cons first rest ih =>
    obtain ⟨kinds, place⟩ := h _ _ first
    refine ⟨?_, List.forall_mem_cons.mpr ⟨kinds, ih.2⟩⟩
    rw [List.map_cons, List.map_cons, List.map_cons, place, ih.1]

section

variable {c : Comparison} {path : Path} {before after : Schema} {kind : DiffKind}
  {entries : List DiffEntry}

theorem pathsOf_of_kind (h : ∀ e ∈ entries, e.kind = kind) :
    pathsOf kind entries = entries.map DiffEntry.path := by
  unfold pathsOf
  rw [List.filter_eq_self.mpr fun e he => beq_iff_eq.mpr (h e he)]

/-- The entries for fields that only the earlier or only the later container has. -/
theorem pathsOf_removals_additions (h : IsLossOrGain kind) {removed added : List DiffEntry}
    (lost : c.removals path before after = .ok removed)
    (gained : c.additions path before after = .ok added) :
    pathsOf kind removed ++ pathsOf kind added =
      (namesReported kind before after).map fun n => path ++ [.name n] := by
  obtain ⟨lostPaths, lostKind⟩ := pathsOf_entries .fieldRemoved path
    (fun f e made => by
      obtain ⟨_, -, made⟩ := bind_eq_ok.mp made
      obtain rfl := pure_eq_ok.mp made
      exact ⟨rfl, rfl⟩) lost
  obtain ⟨gainedPaths, gainedKind⟩ := pathsOf_entries .fieldAdded path
    (fun f e made => by
      obtain ⟨_, -, made⟩ := bind_eq_ok.mp made
      obtain rfl := pure_eq_ok.mp made
      exact ⟨rfl, rfl⟩) gained
  cases h with
  | loss =>
    have others : pathsOf .fieldRemoved added = [] :=
      pathsOf_eq_nil fun e he => by rw [gainedKind e he]; decide
    rw [others, List.append_nil, pathsOf_of_kind lostKind, lostPaths]
    rfl
  | gain =>
    have others : pathsOf .fieldAdded removed = [] :=
      pathsOf_eq_nil fun e he => by rw [lostKind e he]; decide
    rw [others, List.nil_append, pathsOf_of_kind gainedKind, gainedPaths]
    rfl

/-- The paths of the entries of a kind below a path: what is reported, each path once. -/
structure Reports (kind : DiffKind) (byName : Bool) (path : Path) (before after : Schema)
    (entries : List DiffEntry) : Prop where
  nodup : (pathsOf kind entries).Nodup
  mem : ∀ place, place ∈ pathsOf kind entries ↔
    ∃ rest, IsReportedAt kind byName before after rest ∧ place = path ++ rest

/-- The paths of the entries of a kind below two shared fields. -/
structure ReportsBelow (kind : DiffKind) (c : Comparison) (path : Path) (pair : Field × Field)
    (entries : List DiffEntry) : Prop where
  nodup : (pathsOf kind entries).Nodup
  mem : ∀ place, place ∈ pathsOf kind entries ↔ ∃ oldNamed newNamed rest,
    c.matchedNamed? pair.1.type pair.2.type = some (oldNamed, newNamed) ∧
      IsReportedAt kind c.byName oldNamed newNamed rest ∧
      place = path ++ .name pair.1.name :: rest

/-- Where nothing is put side by side, nothing is reported. -/
theorem reports_nil {byName : Bool}
    (apart : ¬(before.kind = after.kind ∧ before.kind.isContainer = true))
    (none : pathsOf kind entries = []) : Reports kind byName path before after entries := by
  refine ⟨none ▸ List.nodup_nil, fun place => ?_⟩
  rw [none]
  constructor
  · intro h
    cases h
  · rintro ⟨rest, reported, -⟩
    exact (apart reported.kinds).elim

theorem nodup_namesReported (h : IsLossOrGain kind) (hb : before.IsWellFormed)
    (ha : after.IsWellFormed) : (namesReported kind before after).Nodup := by
  have distinct {old : Schema} (ho : old.IsWellFormed) (new : Schema) : (namesLost old new).Nodup :=
    ho.distinctFields.sublist (List.filter_sublist.map _)
  cases h with
  | loss => exact distinct hb after
  | gain => exact distinct ha before

/-- The entries below two shared fields are those of the named types that they stand for. -/
theorem reportsBelow_pairChanges (h : IsLossOrGain kind) {pair : Field × Field}
    (ran : c.pairChanges path pair = .ok entries)
    (nested : ∀ oldNamed newNamed below,
      c.matchedNamed? pair.1.type pair.2.type = some (oldNamed, newNamed) →
      c.namedChanges (path ++ [.name pair.1.name]) oldNamed newNamed = .ok below →
      Reports kind c.byName (path ++ [.name pair.1.name]) oldNamed newNamed below) :
    ReportsBelow kind c path pair entries := by
  unfold pairChanges at ran
  obtain ⟨own, ownRan, ran⟩ := bind_eq_ok.mp ran
  obtain ⟨below, belowRan, ran⟩ := bind_eq_ok.mp ran
  obtain rfl := pure_eq_ok.mp ran
  have paths : pathsOf kind (own ++ below) = pathsOf kind below := by
    rw [pathsOf_append, pathsOf_isChange h (isChange_fieldChanges _ _ own ownRan), List.nil_append]
  rw [nestedChanges_eq_matched] at belowRan
  cases found : c.matchedNamed? pair.1.type pair.2.type with
  | none =>
    rw [found] at belowRan
    cases belowRan
    refine ⟨paths ▸ List.nodup_nil, fun place => ?_⟩
    rw [paths, found]
    simp
  | some matched =>
    obtain ⟨oldNamed, newNamed⟩ := matched
    rw [found] at belowRan
    have reports := nested oldNamed newNamed below found belowRan
    refine ⟨paths ▸ reports.nodup, fun place => ?_⟩
    rw [paths, reports.mem, found]
    constructor
    · rintro ⟨rest, reported, rfl⟩
      exact ⟨oldNamed, newNamed, rest, rfl, reported, List.append_cons .. ▸ rfl⟩
    · rintro ⟨_, _, rest, same, reported, rfl⟩
      cases same
      exact ⟨rest, reported, List.append_cons ..⟩

/-- Two shared fields of one container have different names. -/
theorem pairwise_sharedFields (hb : before.IsWellFormed) (after : Schema) :
    (sharedFields before.fields after).Pairwise fun p q => p.1.name ≠ q.1.name := by
  refine (nodup_sharedFields hb after).imp_of_mem ?_
  rintro ⟨old, new⟩ ⟨old', new'⟩ hp hq different same
  obtain ⟨hold, hnew⟩ := mem_sharedFields.mp hp
  obtain ⟨hold', hnew'⟩ := mem_sharedFields.mp hq
  dsimp only at same
  have first := (hb.field?_of_mem hold).symm.trans (same ▸ hb.field?_of_mem hold')
  have second := hnew.symm.trans (same ▸ hnew')
  exact different (by rw [Option.some.inj first, Option.some.inj second])

end

/-- Two entries below a container differ by the name of the field at which they are or below which
they are, or in the length of their paths. -/
theorem nodup_paths {kind : DiffKind} (h : IsLossOrGain kind) {c : Comparison} {path : Path}
    {before after : Schema} {found : Field × Field → List DiffEntry} (hb : before.IsWellFormed)
    (ha : after.IsWellFormed) (below : ∀ pair ∈ sharedFields before.fields after,
      ReportsBelow kind c path pair (found pair)) :
    (((namesReported kind before after).map fun n => path ++ [Step.name n]) ++
      (sharedFields before.fields after).flatMap fun pair => pathsOf kind (found pair)).Nodup := by
  have own : ((namesReported kind before after).map fun n => path ++ [Step.name n]).Nodup := by
    refine (nodup_namesReported h hb ha).map fun m n same => ?_
    simpa using same
  have apart : (sharedFields before.fields after).Pairwise fun p q =>
      (pathsOf kind (found p)).Disjoint (pathsOf kind (found q)) := by
    refine (pairwise_sharedFields hb after).imp_of_mem fun hp hq different place hplace hplace' => ?_
    obtain ⟨_, _, rest, -, -, rfl⟩ := ((below _ hp).mem place).mp hplace
    obtain ⟨_, _, rest', -, -, same⟩ := ((below _ hq).mem _).mp hplace'
    have heads := (List.cons.inj (List.append_cancel_left same)).1
    exact different (Step.name.inj heads)
  have nested := List.nodup_flatMap.mpr ⟨fun pair hp => (below pair hp).nodup, apart⟩
  refine own.append nested fun place hplace hplace' => ?_
  obtain ⟨name, -, rfl⟩ := List.mem_map.mp hplace
  obtain ⟨pair, hp, hplace'⟩ := List.mem_flatMap.mp hplace'
  obtain ⟨_, _, rest, -, reported, same⟩ := ((below pair hp).mem _).mp hplace'
  obtain ⟨above, _, _, last, -, -, rfl⟩ := reported
  simp at same

/-- What is reported by two containers and below their shared fields. -/
theorem mem_paths {kind : DiffKind} {c : Comparison} {path : Path} {before after : Schema}
    {found : Field × Field → List DiffEntry} (hb : before.IsWellFormed)
    (kinds : before.kind = after.kind ∧ before.kind.isContainer = true)
    (below : ∀ pair ∈ sharedFields before.fields after,
      ReportsBelow kind c path pair (found pair)) (place : Path) :
    (place ∈ (namesReported kind before after).map (fun n => path ++ [Step.name n]) ++
      (sharedFields before.fields after).flatMap fun pair => pathsOf kind (found pair)) ↔
    ∃ rest, IsReportedAt kind c.byName before after rest ∧ place = path ++ rest := by
  rw [List.mem_append, List.mem_map, List.mem_flatMap]
  constructor
  · rintro (⟨name, own, rfl⟩ | ⟨pair, hp, nested⟩)
    · exact ⟨[.name name], (isReportedAt_iff kinds).mpr (.inl ⟨name, own, rfl⟩), rfl⟩
    · obtain ⟨oldNamed, newNamed, rest, matched, reported, rfl⟩ := ((below pair hp).mem _).mp nested
      obtain ⟨stands, -, -⟩ := matchedNamed?_eq_some.mp matched
      have nesting : oldNamed.kind.isNesting = true :=
        Kind.isNesting_of_isNamed (Schema.of_unwrapNamed_eq_some stands).2 reported.kinds.2
      have step := (standFor_iff hb).mpr ⟨nesting, pair, hp, rfl, matched⟩
      exact ⟨.name pair.1.name :: rest,
        (isReportedAt_iff kinds).mpr (.inr ⟨_, oldNamed, newNamed, rest, step, reported, rfl⟩), rfl⟩
  · rintro ⟨rest, reported, rfl⟩
    obtain ⟨name, own, rfl⟩ | ⟨name, oldNamed, newNamed, rest, step, nested, rfl⟩ :=
      (isReportedAt_iff kinds).mp reported
    · exact .inl ⟨name, own, rfl⟩
    · obtain ⟨-, pair, hp, rfl, matched⟩ := (standFor_iff hb).mp step
      exact .inr ⟨pair, hp, ((below pair hp).mem _).mpr
        ⟨oldNamed, newNamed, rest, matched, nested, rfl⟩⟩

/-- The induction follows the named types downwards. -/
theorem reports_namedChanges {kind : DiffKind} (h : IsLossOrGain kind) {c : Comparison}
    {path : Path} {before after : Schema} {entries : List DiffEntry} (hb : before.IsWellFormed)
    (ha : after.IsWellFormed) (same : before.kind = after.kind)
    (structured : before.kind.isStructured = true)
    (ran : c.namedChanges path before after = .ok entries) :
    Reports kind c.byName path before after entries := by
  by_cases enum : before.kind = .enum
  · rw [namedChanges_enum c path enum] at ran
    cases ran
    refine reports_nil (fun kinds => ?_) (pathsOf_isChange h ?_)
    · rw [enum] at kinds
      cases kinds.2
    · exact List.forall_mem_append.mpr ⟨isChange_headChanges, isChange_symbolChanges⟩
  have kinds := And.intro same (Kind.isContainer_of_isStructured structured enum)
  rw [namedChanges_container c path enum] at ran
  obtain ⟨removed, lost, ran⟩ := bind_eq_ok.mp ran
  obtain ⟨added, gained, ran⟩ := bind_eq_ok.mp ran
  obtain ⟨changed, shared, ran⟩ := bind_eq_ok.mp ran
  obtain rfl := pure_eq_ok.mp ran
  obtain ⟨lists, walked, rfl⟩ := map_eq_ok.mp shared
  obtain ⟨found, pairRan, rfl⟩ := exists_map_of_mapM_eq_ok walked
  have below : ∀ pair ∈ sharedFields before.fields after,
      ReportsBelow kind c path pair (found pair) := by
    intro pair shared
    refine reportsBelow_pairChanges h (pairRan pair shared) fun _ newNamed below matched ran => ?_
    have smaller := sizeOf_matched_lt shared matched
    obtain ⟨hold, hnew⟩ := mem_sharedFields.mp shared
    obtain ⟨oldStands, newStands, matching⟩ := matchedNamed?_eq_some.mp matched
    obtain ⟨oldNode, named⟩ := Schema.of_unwrapNamed_eq_some oldStands
    have newNode := (Schema.of_unwrapNamed_eq_some newStands).1
    simp only [matchesNamed, Bool.and_eq_true, beq_iff_eq] at matching
    exact reports_namedChanges h ((hb.field hold).node oldNode)
      ((ha.field (Schema.of_field?_eq_some hnew).1).node newNode) matching.1
      (Kind.isStructured_of_isNamed named) ran
  have paths : pathsOf kind (c.headChanges path before after ++ removed ++ added ++
        ((sharedFields before.fields after).map found).flatten) =
      ((namesReported kind before after).map fun n => path ++ [.name n]) ++
        (sharedFields before.fields after).flatMap fun pair => pathsOf kind (found pair) := by
    rw [pathsOf_append, pathsOf_append, pathsOf_append, pathsOf_isChange h isChange_headChanges,
      List.nil_append, pathsOf_removals_additions h lost gained, pathsOf_flatten, List.flatMap_map]
  refine ⟨?_, fun place => ?_⟩
  · rw [paths]
    exact nodup_paths h hb ha below
  · rw [paths]
    exact mem_paths hb kinds below place
termination_by sizeOf before

theorem reports_rootChanges {kind : DiffKind} (h : IsLossOrGain kind) {c : Comparison}
    {before after : Schema} {entries : List DiffEntry} (hb : before.IsWellFormed)
    (ha : after.IsWellFormed) (ran : c.rootChanges before after = .ok entries) :
    Reports kind c.byName [] before after entries := by
  unfold rootChanges at ran
  split at ran
  · rename_i different
    refine reports_nil (fun kinds => different kinds.1) (pathsOf_isChange h ?_)
    split at ran
    · cases ran
      exact List.forall_mem_singleton.mpr
        (isChange_of_kind (by simp [incomparableEntry]) (by simp [incomparableEntry]))
    · exact isChange_typeChange entries ran
  rename_i same
  split at ran
  · rename_i structured
    exact reports_namedChanges h hb ha (not_not.mp same) structured ran
  · rename_i flat
    refine reports_nil (fun kinds => flat ?_) (pathsOf_isChange h (isChange_bySignature entries ran))
    exact Kind.isStructured_of_isContainer kinds.2

end Comparison

/-- Whenever a comparison of two schemas comes to a result, under any mode, it has one entry for
each field that was removed from a container with a counterpart, one for each field that was added
to one, and no other entries of these kinds. It comes to a result if names are only labels, or if
they are texts or absent. -/
theorem diff_reports_fields {before after : SchemaInput} (mode : Mode)
    (hb : before.root.IsWellFormed) (ha : after.root.IsWellFormed) :
    (∀ entries, diff before after mode = .ok entries →
      ((pathsOf .fieldRemoved entries).Nodup ∧
        ∀ path, path ∈ pathsOf .fieldRemoved entries ↔ ∃ place old new name,
          MatchedAt (comparesByName before after) before.root after.root place old new ∧
            name ∈ namesLost old new ∧ path = place ++ [.name name]) ∧
      ((pathsOf .fieldAdded entries).Nodup ∧
        ∀ path, path ∈ pathsOf .fieldAdded entries ↔ ∃ place old new name,
          MatchedAt (comparesByName before after) before.root after.root place old new ∧
            name ∈ namesLost new old ∧ path = place ++ [.name name])) ∧
    (before.root.HasTextNames (comparesByName before after) →
      after.root.HasTextNames (comparesByName before after) →
      ∃ entries, diff before after mode = .ok entries) := by
  refine ⟨fun entries ran => ?_, fun textsBefore textsAfter => ?_⟩
  · have lost := Comparison.reports_rootChanges .loss hb ha ran
    have gained := Comparison.reports_rootChanges .gain hb ha ran
    refine ⟨⟨lost.nodup, fun path => ?_⟩, gained.nodup, fun path => ?_⟩
    · rw [lost.mem]
      exact exists_eq_right'
    · rw [gained.mem]
      exact exists_eq_right'
  · exact succeeds_diff mode textsBefore textsAfter

/-- A person with some homes, each with an address of some parts, and some other fields. -/
def housedPerson (parts : List String) (others : List Field) : Schema :=
  let text : Schema := { kind := .primitive, typeName := some "string" }
  let address : Schema :=
    { kind := .record, name := .str "Address",
      fields := parts.map fun part => { name := part, type := text } }
  { kind := .record, name := .str "Person",
    fields := { name := "homes", type := { kind := .array, items := some address } } :: others }

theorem diff_reports_fields_person :
    (housedPerson ["street", "zip"] [nameField]).IsWellFormed ∧
      (housedPerson ["street"] []).IsWellFormed ∧
      ∃ entries, diff (.model (housedPerson ["street", "zip"] [nameField]))
          (.model (housedPerson ["street"] [])) .backward = .ok entries ∧
        pathsOf .fieldRemoved entries = [[.name "name"], [.name "homes", .name "zip"]] ∧
        ∃ place old new name,
          MatchedAt true (housedPerson ["street", "zip"] [nameField]) (housedPerson ["street"] [])
            place old new ∧
          name ∈ namesLost old new ∧ [.name "homes", .name "zip"] = place ++ [.name name] := by
  have before : (housedPerson ["street", "zip"] [nameField]).IsWellFormed := by
    unfold Schema.IsWellFormed
    decide
  have after : (housedPerson ["street"] []).IsWellFormed := by
    unfold Schema.IsWellFormed
    decide
  have textsBefore : (housedPerson ["street", "zip"] [nameField]).HasTextNames true := by
    unfold Schema.HasTextNames
    decide
  have textsAfter : (housedPerson ["street"] []).HasTextNames true := by
    unfold Schema.HasTextNames
    decide
  obtain ⟨reported, returns⟩ := @diff_reports_fields
    (.model (housedPerson ["street", "zip"] [nameField])) (.model (housedPerson ["street"] []))
    .backward before after
  obtain ⟨entries, ran⟩ := returns textsBefore textsAfter
  have paths : pathsOf .fieldRemoved <$> diff
      (.model (housedPerson ["street", "zip"] [nameField])) (.model (housedPerson ["street"] []))
      .backward = .ok [[.name "name"], [.name "homes", .name "zip"]] := by
    cbv
  rw [ran] at paths
  have lost : pathsOf .fieldRemoved entries = [[.name "name"], [.name "homes", .name "zip"]] :=
    Except.ok.inj paths
  refine ⟨before, after, entries, ran, lost, ?_⟩
  refine ((reported entries ran).1.2 _).mp ?_
  rw [lost]
  exact List.mem_cons_of_mem _ List.mem_cons_self

/-- A person with a contact of one of several types, the only one of which is a record that is named
by a number, and some other fields. -/
def contactPerson (others : List Field) : Schema :=
  { kind := .record, name := .str "Person",
    fields := { name := "contact",
                type := { kind := .union, members := [{ kind := .record, name := .int 5 }] } } ::
      others }

/-- A union with a member that is named by a number has no signature, so that nothing is reported
where names count. -/
theorem removal_unreported_of_numbered_member :
    (contactPerson [nameField]).IsWellFormed ∧ (contactPerson []).IsWellFormed ∧
      MatchedAt true (contactPerson [nameField]) (contactPerson []) [] (contactPerson [nameField])
        (contactPerson []) ∧
      "name" ∈ namesLost (contactPerson [nameField]) (contactPerson []) ∧
      ¬∃ entries, diff (.model (contactPerson [nameField])) (.model (contactPerson [])) .backward =
        .ok entries := by
  refine ⟨?_, ?_, .roots rfl rfl, by decide, ?_⟩
  · unfold Schema.IsWellFormed
    decide
  · unfold Schema.IsWellFormed
    decide
  · have failed : diff (.model (contactPerson [nameField])) (.model (contactPerson [])) .backward =
        .error (.nonTextInSequence 0 "int") := by
      cbv
    rintro ⟨entries, ran⟩
    rw [failed] at ran
    cases ran

end SchemaReview
