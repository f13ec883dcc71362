import SchemaReview.Proofs.Compatibility.Fields

/-!
# What the mode decides

A comparison finds the same differences under every mode; the mode only decides which of them are
breaking. A difference is followed here through all modes at once, as an entry for each mode, and
the colours of these entries hang together: a transitive mode colours as its base, no mode at all
leaves nothing but incomparable roots, and both directions together colour what either of them
does, and besides the loss of fields that have a default.
-/
namespace SchemaReview

namespace DiffEntry

/-- The entry without its colour. -/
def uncoloured (e : DiffEntry) : DiffEntry := { e with breaking := false }

/-- Whether the entry tells the loss of a field that has a default. -/
def dropsDefault (e : DiffEntry) : Bool :=
  e.kind == .fieldRemoved &&
    match e.before with
    | .obj members => (Json.memberOrNull members "has_default").isTruthy
    | _ => false

end DiffEntry

/-- The entries of one difference under all modes, and how their colours hang together. -/
structure IsRecoloured (entry : Mode → DiffEntry) : Prop where
  uncoloured : ∀ m n, (entry m).uncoloured = (entry n).uncoloured
  base : ∀ m, (entry m).breaking = (entry m.base).breaking
  unchecked : (entry .none).breaking = true ↔ (entry .none).kind = .incomparable
  full : (entry .full).breaking =
    ((entry .backward).breaking || (entry .forward).breaking || (entry .full).dropsDefault)

/-- Lists of entries, one for each mode, that hold the same differences in the same order. -/
def AreRecoloured (entries : Mode → List DiffEntry) : Prop :=
  ∃ differences : List (Mode → DiffEntry), (∀ d ∈ differences, IsRecoloured d) ∧
    ∀ m, entries m = differences.map (· m)

/-- Runs, one for each mode, that fail all alike or find the same differences. -/
def RunsRecoloured (run : Mode → Entries) : Prop :=
  (∃ fault, ∀ m, run m = .error fault) ∨
    ∃ entries, AreRecoloured entries ∧ ∀ m, run m = .ok (entries m)

namespace Mode

/-! A transitive mode checks what its base checks. -/

@[simp] theorem direction_base (m : Mode) : m.base.direction = m.direction := by
  cases m with
  | _ => rfl

@[simp] theorem isChecking_base (m : Mode) : m.base.isChecking = m.isChecking := by
  simp [isChecking]

@[simp] theorem checksBackward_base (m : Mode) : m.base.checksBackward = m.checksBackward := by
  simp [checksBackward]

@[simp] theorem checksForward_base (m : Mode) : m.base.checksForward = m.checksForward := by
  simp [checksForward]

end Mode

section

variable {entries others : Mode → List DiffEntry} {entry : Mode → DiffEntry}

theorem areRecoloured_nil : AreRecoloured fun _ => [] := ⟨[], by simp, fun _ => rfl⟩

theorem areRecoloured_singleton (h : IsRecoloured entry) : AreRecoloured fun m => [entry m] :=
  ⟨[entry], by simpa using h, fun _ => rfl⟩

theorem AreRecoloured.append (h : AreRecoloured entries) (ho : AreRecoloured others) :
    AreRecoloured fun m => entries m ++ others m := by
  obtain ⟨ds, hd, same⟩ := h
  obtain ⟨es, he, alike⟩ := ho
  refine ⟨ds ++ es, List.forall_mem_append.mpr ⟨hd, he⟩, fun m => ?_⟩
  simp only [same m, alike m, List.map_append]

/-- A condition that no mode has an influence on. -/
theorem areRecoloured_ite {p : Prop} [Decidable p] (h : AreRecoloured entries)
    (ho : AreRecoloured others) : AreRecoloured fun m => if p then entries m else others m := by
  by_cases hp : p
  · simpa [hp] using h
  · simpa [hp] using ho

theorem dropsDefault_of_ne {e : DiffEntry} (kept : e.kind ≠ .fieldRemoved) :
    e.dropsDefault = false := by
  rw [DiffEntry.dropsDefault, beq_eq_false_iff_ne.mpr kept, Bool.false_and]

/-- An entry that is breaking for one reason under the modes that look backward, for another under
those that look forward, and for a third under all modes that check anything. -/
theorem isRecoloured_directed (old new either : Bool)
    (same : ∀ m n, (entry m).uncoloured = (entry n).uncoloured)
    (colour : ∀ m, (entry m).breaking =
      (m.checksBackward && old || m.checksForward && new || m.isChecking && either))
    (comparable : (entry .none).kind ≠ .incomparable)
    (kept : (entry .full).kind ≠ .fieldRemoved) : IsRecoloured entry := by
  refine ⟨same, fun m => ?_, ?_, ?_⟩
  · simp [colour]
  · have unchecked : (entry .none).breaking = false := colour .none
    simp [unchecked, comparable]
  · have backward : (entry .backward).breaking = (old || either) :=
      (colour .backward).trans (by cases old <;> rfl)
    have forward : (entry .forward).breaking = (new || either) :=
      (colour .forward).trans (by cases new <;> rfl)
    have full : (entry .full).breaking = (old || new || either) := colour .full
    rw [backward, forward, full, dropsDefault_of_ne kept, Bool.or_false]
    cases either with
    | true => simp
    | false => simp

/-- An entry that is breaking under the modes that check anything, if some condition holds. -/
theorem isRecoloured_checked (condition : Bool)
    (same : ∀ m n, (entry m).uncoloured = (entry n).uncoloured)
    (colour : ∀ m, (entry m).breaking = (m.isChecking && condition))
    (comparable : (entry .none).kind ≠ .incomparable)
    (kept : (entry .full).kind ≠ .fieldRemoved) : IsRecoloured entry := by
  refine isRecoloured_directed false false condition same (fun m => ?_) comparable kept
  simp [colour]

/-- An entry that is breaking under no mode. -/
theorem isRecoloured_plain {e : DiffEntry} (plain : e.breaking = false)
    (comparable : e.kind ≠ .incomparable) (kept : e.kind ≠ .fieldRemoved) :
    IsRecoloured fun _ => e := by
  refine isRecoloured_checked false (fun _ _ => rfl) (fun m => ?_) comparable kept
  simp [plain]

end

section

variable {α β : Type} {run : Mode → Entries}

theorem runsRecoloured_ok {entries : Mode → List DiffEntry} (h : AreRecoloured entries) :
    RunsRecoloured fun m => .ok (entries m) := .inr ⟨entries, h, fun _ => rfl⟩

/-- A step that no mode has an influence on. -/
theorem runsRecoloured_step {x : Except TypeFault α} {next : α → Mode → Entries}
    (h : ∀ a, RunsRecoloured (next a)) : RunsRecoloured fun m => x >>= fun a => next a m := by
  cases x with
  | error fault => exact .inl ⟨fault, fun _ => rfl⟩
  | ok a => exact h a

/-- A run whose differences are handed on. -/
theorem RunsRecoloured.bind {next : Mode → List DiffEntry → Entries} (h : RunsRecoloured run)
    (hn : ∀ entries, AreRecoloured entries → RunsRecoloured fun m => next m (entries m)) :
    RunsRecoloured fun m => run m >>= next m := by
  obtain ⟨fault, failed⟩ | ⟨entries, he, ran⟩ := h
  · refine .inl ⟨fault, fun m => ?_⟩
    simp only [failed m]
    rfl
  · simp only [ran]
    exact hn entries he

theorem RunsRecoloured.append {other : Mode → Entries} (h : RunsRecoloured run)
    (ho : RunsRecoloured other) :
    RunsRecoloured fun m => do return (← run m) ++ (← other m) := by
  refine h.bind fun entries he => ?_
  refine ho.bind fun others hothers => ?_
  exact runsRecoloured_ok (he.append hothers)

theorem runsRecoloured_ite {p : Prop} [Decidable p] {other : Mode → Entries}
    (h : p → RunsRecoloured run) (ho : ¬p → RunsRecoloured other) :
    RunsRecoloured fun m => if p then run m else other m := by
  by_cases hp : p
  · simpa [hp] using h hp
  · simpa [hp] using ho hp

/-- A walk over a list that makes one entry for each element. -/
theorem runsRecoloured_entries {x : α → Except TypeFault β} {entry : Mode → α → β → DiffEntry}
    (xs : List α) (h : ∀ a b, x a = .ok b → IsRecoloured fun m => entry m a b) :
    RunsRecoloured fun m => xs.mapM fun a => do return entry m a (← x a) := by
  induction xs with
  | nil => exact runsRecoloured_ok areRecoloured_nil
  | cons a rest ih =>
    simp only [List.mapM_cons, bind_assoc, pure_bind]
    cases hx : x a with
    | error fault => exact .inl ⟨fault, fun _ => rfl⟩
    | ok b =>
      refine ih.bind fun entries he => ?_
      exact runsRecoloured_ok ((areRecoloured_singleton (h a b hx)).append he)

/-- A walk over a list that makes a run for each element. -/
theorem runsRecoloured_flatten {runs : Mode → α → Entries} (xs : List α)
    (h : ∀ a ∈ xs, RunsRecoloured fun m => runs m a) :
    RunsRecoloured fun m => List.flatten <$> xs.mapM (runs m) := by
  induction xs with
  | nil => exact runsRecoloured_ok areRecoloured_nil
  | cons a rest ih =>
    rw [List.forall_mem_cons] at h
    have whole := h.1.append (ih h.2)
    simp only [map_eq_pure_bind, bind_assoc, pure_bind] at whole
    simpa only [List.mapM_cons, map_eq_pure_bind, bind_assoc, pure_bind, List.flatten_cons]
      using whole

end

namespace Comparison

variable (byName : Bool) (path : Path)

theorem runsRecoloured_typeChange (before after : Schema) :
    RunsRecoloured fun m => (⟨m, byName⟩ : Comparison).typeChange path before after := by
  unfold typeChange
  dsimp only
  refine runsRecoloured_step fun old => runsRecoloured_step fun new => ?_
  refine runsRecoloured_ok (areRecoloured_singleton ?_)
  refine isRecoloured_directed (!Schema.canRead byName after before)
    (!Schema.canRead byName before after) false (fun _ _ => rfl) (fun m => ?_) nofun nofun
  simp [Schema.isBreakingChange]

theorem areRecoloured_symbolChanges (before after : Schema) :
    AreRecoloured fun m => (⟨m, byName⟩ : Comparison).symbolChanges path before after := by
  unfold symbolChanges
  dsimp only
  refine areRecoloured_ite areRecoloured_nil (areRecoloured_singleton ?_)
  exact isRecoloured_directed _ _ _ (fun _ _ => rfl) (fun _ => rfl) nofun nofun

theorem areRecoloured_headChanges (before after : Schema) :
    AreRecoloured fun m => (⟨m, byName⟩ : Comparison).headChanges path before after := by
  unfold headChanges
  dsimp only
  refine AreRecoloured.append (AreRecoloured.append ?_ ?_) ?_
  · refine areRecoloured_ite areRecoloured_nil (areRecoloured_singleton ?_)
    exact isRecoloured_checked byName (fun _ _ => rfl) (fun _ => rfl) nofun nofun
  · refine areRecoloured_ite areRecoloured_nil (areRecoloured_singleton ?_)
    exact isRecoloured_plain rfl nofun nofun
  · refine areRecoloured_ite (areRecoloured_singleton ?_) areRecoloured_nil
    exact isRecoloured_plain rfl nofun nofun

theorem areRecoloured_fieldDetails (old new : Field) :
    AreRecoloured fun m => (⟨m, byName⟩ : Comparison).fieldDetails path old new := by
  unfold fieldDetails
  dsimp only
  refine AreRecoloured.append ?_ (AreRecoloured.append ?_ ?_)
  · refine areRecoloured_ite areRecoloured_nil (areRecoloured_singleton ?_)
    exact isRecoloured_checked true (fun _ _ => rfl) (fun m => (Bool.and_true _).symm) nofun nofun
  · refine areRecoloured_ite (areRecoloured_singleton ?_) areRecoloured_nil
    exact isRecoloured_plain rfl nofun nofun
  · refine areRecoloured_ite (areRecoloured_singleton ?_) areRecoloured_nil
    exact isRecoloured_plain rfl nofun nofun

theorem runsRecoloured_fieldChanges (old new : Field) :
    RunsRecoloured fun m => (⟨m, byName⟩ : Comparison).fieldChanges path old new := by
  simp only [fieldChanges_eq]
  refine RunsRecoloured.bind ?_ fun entries he => ?_
  · unfold fieldTypeEntries signaturesDiffer
    dsimp only
    refine runsRecoloured_ite (fun _ => runsRecoloured_typeChange ..) fun _ => ?_
    refine runsRecoloured_step fun differs => ?_
    refine runsRecoloured_ite (fun _ => runsRecoloured_typeChange ..) fun _ => ?_
    exact runsRecoloured_ok areRecoloured_nil
  · exact runsRecoloured_ok (he.append (areRecoloured_fieldDetails ..))

/-- What is shown of a field tells whether it has a default. -/
theorem hasDefault_of_fieldSnapshot {f : Field} {shown : Json}
    (h : fieldSnapshot byName f = .ok shown) : ∃ members, shown = .obj members ∧
      Json.memberOrNull members "has_default" = .bool f.hasDefault := by
  unfold fieldSnapshot at h
  obtain ⟨signature, -, h⟩ := bind_eq_ok.mp h
  obtain rfl := pure_eq_ok.mp h
  exact ⟨_, rfl, rfl⟩

theorem runsRecoloured_removals (before after : Schema) :
    RunsRecoloured fun m => (⟨m, byName⟩ : Comparison).removals path before after := by
  unfold removals
  dsimp only
  refine runsRecoloured_entries _ fun f shown hs => ?_
  obtain ⟨members, rfl, has⟩ := hasDefault_of_fieldSnapshot byName hs
  refine ⟨fun _ _ => rfl, fun m => ?_, ?_, ?_⟩
  · simp [removalBreaks]
  · simp [removalBreaks, Mode.isChecking, Mode.direction]
  · simp only [removalBreaks, DiffEntry.dropsDefault, has, Json.isTruthy]
    cases before.kind == .file with
    | true => rfl
    | false =>
      cases f.hasDefault with
      | true => rfl
      | false => rfl

theorem runsRecoloured_additions (before after : Schema) :
    RunsRecoloured fun m => (⟨m, byName⟩ : Comparison).additions path before after := by
  unfold additions
  dsimp only
  refine runsRecoloured_entries _ fun f shown _ => ?_
  exact isRecoloured_checked (before.kind != .file && !f.hasDefault) (fun _ _ => rfl)
    (fun m => Bool.and_assoc ..) nofun nofun

/-- The named types that are compared below two types do not depend on the mode. -/
theorem matchedNamed?_mode (m n : Mode) (old new : Schema) :
    (⟨m, byName⟩ : Comparison).matchedNamed? old new =
      (⟨n, byName⟩ : Comparison).matchedNamed? old new := rfl

/-- The induction follows the named types downwards: below a shared field, it goes on with smaller
ones. -/
theorem runsRecoloured_namedChanges (before after : Schema) (path : Path) :
    RunsRecoloured fun m => (⟨m, byName⟩ : Comparison).namedChanges path before after := by
  by_cases enum : before.kind = .enum
  · simp only [namedChanges_enum _ _ enum]
    exact runsRecoloured_ok
      ((areRecoloured_headChanges ..).append (areRecoloured_symbolChanges ..))
  simp only [namedChanges_container _ _ enum]
  refine (runsRecoloured_removals ..).bind fun removed hr => ?_
  refine (runsRecoloured_additions ..).bind fun added ha => ?_
  refine RunsRecoloured.bind ?_ fun changed hc => ?_
  · refine runsRecoloured_flatten _ fun pair hp => ?_
    obtain ⟨old, new⟩ := pair
    unfold pairChanges
    refine (runsRecoloured_fieldChanges ..).append ?_
    simp only [nestedChanges_eq_matched, matchedNamed?_mode byName _ .none]
    cases found : (⟨.none, byName⟩ : Comparison).matchedNamed? old.type new.type with
    | none => exact runsRecoloured_ok areRecoloured_nil
    | some named =>
      have smaller : sizeOf named.1 < sizeOf before := sizeOf_matched_lt hp found
      exact runsRecoloured_namedChanges named.1 named.2 _
  · exact runsRecoloured_ok ((((areRecoloured_headChanges ..).append hr).append ha).append hc)
termination_by sizeOf before

/-- An entry for incomparable roots is breaking under every mode. -/
theorem isRecoloured_incomparableEntry (before after : Schema) :
    IsRecoloured fun _ => incomparableEntry before after :=
  ⟨fun _ _ => rfl, fun _ => rfl, by simp [incomparableEntry], by simp [incomparableEntry]⟩

theorem runsRecoloured_rootChanges (before after : Schema) :
    RunsRecoloured fun m => (⟨m, byName⟩ : Comparison).rootChanges before after := by
  unfold rootChanges signaturesDiffer
  dsimp only
  refine runsRecoloured_ite (fun _ => ?_) fun _ => ?_
  · refine runsRecoloured_ite (fun _ => ?_) fun _ => runsRecoloured_typeChange ..
    exact runsRecoloured_ok (areRecoloured_singleton (isRecoloured_incomparableEntry ..))
  refine runsRecoloured_ite (fun _ => runsRecoloured_namedChanges ..) fun _ => ?_
  simp only [bind_assoc, pure_bind]
  refine runsRecoloured_step fun a => runsRecoloured_step fun b => ?_
  refine runsRecoloured_ite (fun _ => runsRecoloured_typeChange ..) fun _ => ?_
  exact runsRecoloured_ok areRecoloured_nil

end Comparison

/-- The mode decides only which differences are breaking. Either the comparison fails under every
mode, or it finds one list of differences, each of which has an entry for every mode: the entries
are equal up to their colour, a transitive mode colours as its base does, without a mode only
incomparable roots are breaking, and under both directions an entry is breaking if it is so under
one of them, or if it tells the loss of a field with a default. -/
theorem diff_recolours (before after : SchemaInput) :
    (∃ fault, ∀ m, diff before after m = .error fault) ∨
      ∃ differences : List (Mode → DiffEntry),
        (∀ m, diff before after m = .ok (differences.map (· m))) ∧
        ∀ d ∈ differences,
          (∀ m n, (d m).uncoloured = (d n).uncoloured) ∧
          (∀ m, (d m).breaking = (d m.base).breaking) ∧
          ((d .none).breaking = true ↔ (d .none).kind = .incomparable) ∧
          (d .full).breaking =
            ((d .backward).breaking || (d .forward).breaking || (d .full).dropsDefault) := by
  obtain ⟨fault, failed⟩ | ⟨entries, ⟨differences, regular, listed⟩, ran⟩ :=
    Comparison.runsRecoloured_rootChanges (!(before.hasLabels || after.hasLabels)) before.root
      after.root
  · exact .inl ⟨fault, failed⟩
  · refine .inr ⟨differences, fun m => ?_, fun d hd => ?_⟩
    · rw [← listed m]
      exact ran m
    · have laws := regular d hd
      exact ⟨laws.uncoloured, laws.base, laws.unchecked, laws.full⟩

end SchemaReview
