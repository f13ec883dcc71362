import SchemaReview.Proofs.Compatibility.Fields
import SchemaReview.Proofs.Schema.WellFormed

/-!
# A comparison read from the other side

When two schemas change places, the comparison finds the same differences: what was before is after,
a field that was added is removed, and entries may come in another order. Where the first comparison
looks backward and the second one forward, an entry and its mirror image are breaking alike, unless
both roots are files, whose declarations may be added but not dropped.
-/
namespace SchemaReview

/-- The kind of a difference as the other side sees it. -/
def DiffKind.mirrored : DiffKind → DiffKind
  | .fieldAdded => .fieldRemoved
  | .fieldRemoved => .fieldAdded
  | kind => kind

namespace DiffEntry

/-- The difference as the other side sees it. -/
def mirrored (e : DiffEntry) : DiffEntry :=
  { e with kind := e.kind.mirrored, before := e.after, after := e.before }

/-- The entry without its message, and without its colour unless it counts. -/
def outline (coloured : Bool) (e : DiffEntry) : DiffEntry :=
  { e with breaking := coloured && e.breaking, message := "" }

end DiffEntry

/-- Whether the entries of one side are, in some order, those of the other side seen from there. -/
def AreMirrored (coloured : Bool) (entries others : List DiffEntry) : Prop :=
  (others.map (·.outline coloured)).Perm (entries.map (·.mirrored.outline coloured))

/-- Whether the success of one run gives that of another one, with the mirrored entries. -/
def RunsMirrored (coloured : Bool) (run other : Entries) : Prop :=
  ∀ entries, run = .ok entries → ∃ others, other = .ok others ∧ AreMirrored coloured entries others

section

variable {coloured : Bool}

theorem areMirrored_nil : AreMirrored coloured [] [] := List.Perm.refl _

theorem areMirrored_singleton {e f : DiffEntry} (kind : f.kind = e.kind.mirrored)
    (path : f.path = e.path) (before : f.before = e.after) (after : f.after = e.before)
    (colour : coloured = true → f.breaking = e.breaking) : AreMirrored coloured [e] [f] := by
  have shown : (coloured && f.breaking) = (coloured && e.breaking) := by
    cases coloured with
    | false => rfl
    | true => simp [colour rfl]
  simp [AreMirrored, DiffEntry.outline, DiffEntry.mirrored, kind, path, before, after, shown]

section

variable {xs ys xs' ys' : List DiffEntry}

theorem AreMirrored.append (h : AreMirrored coloured xs xs') (h' : AreMirrored coloured ys ys') :
    AreMirrored coloured (xs ++ ys) (xs' ++ ys') := by
  unfold AreMirrored at *
  rw [List.map_append, List.map_append]
  exact h.append h'

/-- Two groups of entries that change places. -/
theorem AreMirrored.cross (h : AreMirrored coloured xs ys') (h' : AreMirrored coloured ys xs') :
    AreMirrored coloured (xs ++ ys) (xs' ++ ys') :=
  (List.perm_append_comm.map _).trans (h.append h')

/-- A condition that holds on both sides or on none. -/
theorem areMirrored_ite {p q : Prop} [Decidable p] [Decidable q] (same : q ↔ p)
    (h : p → AreMirrored coloured xs xs') (h' : ¬p → AreMirrored coloured ys ys') :
    AreMirrored coloured (if p then xs else ys) (if q then xs' else ys') := by
  by_cases hp : p
  · rw [if_pos hp, if_pos (same.mpr hp)]
    exact h hp
  · rw [if_neg hp, if_neg (same.not.mpr hp)]
    exact h' hp

theorem runsMirrored_ok (h : AreMirrored coloured xs xs') :
    RunsMirrored coloured (.ok xs) (.ok xs') := by
  intro entries ran
  cases ran
  exact ⟨xs', rfl, h⟩

end

section

variable {run other run' other' : Entries}

/-- Runs whose entries are put one after the other. -/
theorem RunsMirrored.append (h : RunsMirrored coloured run other)
    (h' : RunsMirrored coloured run' other') :
    RunsMirrored coloured (do return (← run) ++ (← run')) (do return (← other) ++ (← other')) := by
  intro entries ran
  obtain ⟨xs, hx, ran⟩ := bind_eq_ok.mp ran
  obtain ⟨ys, hy, ran⟩ := bind_eq_ok.mp ran
  obtain rfl := pure_eq_ok.mp ran
  obtain ⟨xs', hx', first⟩ := h xs hx
  obtain ⟨ys', hy', second⟩ := h' ys hy
  exact ⟨xs' ++ ys', by rw [hx', hy']; rfl, first.append second⟩

theorem runsMirrored_ite {p q : Prop} [Decidable p] [Decidable q] (same : q ↔ p)
    (h : p → RunsMirrored coloured run other) (h' : ¬p → RunsMirrored coloured run' other') :
    RunsMirrored coloured (if p then run else run') (if q then other else other') := by
  by_cases hp : p
  · rw [if_pos hp, if_pos (same.mpr hp)]
    exact h hp
  · rw [if_neg hp, if_neg (same.not.mpr hp)]
    exact h' hp

end

section

variable {α : Type} {xs : List α}

/-- A walk that makes one entry for each element of one list on both sides. -/
theorem runsMirrored_entries {entry other : α → Except TypeFault DiffEntry}
    (h : ∀ a ∈ xs, ∀ e, entry a = .ok e → ∃ f, other a = .ok f ∧ AreMirrored coloured [e] [f]) :
    RunsMirrored coloured (xs.mapM entry) (xs.mapM other) := by
  induction xs with
  | nil => exact runsMirrored_ok areMirrored_nil
  | cons a rest ih =>
    intro entries ran
    rw [List.mapM_cons] at ran
    obtain ⟨e, he, ran⟩ := bind_eq_ok.mp ran
    obtain ⟨es, hes, ran⟩ := bind_eq_ok.mp ran
    obtain rfl := pure_eq_ok.mp ran
    obtain ⟨f, hf, first⟩ := h a List.mem_cons_self e he
    obtain ⟨fs, hfs, others⟩ := ih (fun b hb => h b (List.mem_cons_of_mem _ hb)) es hes
    refine ⟨f :: fs, ?_, first.append others⟩
    rw [List.mapM_cons, hf, hfs]
    rfl

/-- A walk over a list on one side and over a rearranged one on the other, that makes a run for each
element. -/
theorem runsMirrored_flatten {β : Type} {ys : List β} {turn : α → β} {run : α → Entries}
    {other : β → Entries} (rearranged : ys.Perm (xs.map turn))
    (h : ∀ a ∈ xs, RunsMirrored coloured (run a) (other (turn a))) :
    RunsMirrored coloured (List.flatten <$> xs.mapM run) (List.flatten <$> ys.mapM other) := by
  intro entries ran
  obtain ⟨lists, walked, rfl⟩ := map_eq_ok.mp ran
  obtain ⟨found, hfound, rfl⟩ := exists_map_of_mapM_eq_ok walked
  let foundThere (b : β) : List DiffEntry := match other b with
    | .ok others => others
    | .error _ => []
  have mirrored : ∀ a ∈ xs, other (turn a) = .ok (foundThere (turn a)) ∧
      AreMirrored coloured (found a) (foundThere (turn a)) := by
    intro a ha
    obtain ⟨others, ho, same⟩ := h a ha _ (hfound a ha)
    have value : foundThere (turn a) = others := by simp only [foundThere, ho]
    rw [value]
    exact ⟨ho, same⟩
  have ranThere : ys.mapM other = .ok (ys.map foundThere) := by
    refine mapM_eq_ok_map fun b hb => ?_
    obtain ⟨a, ha, rfl⟩ := List.mem_map.mp (rearranged.mem_iff.mp hb)
    exact (mirrored a ha).1
  have pairwise : AreMirrored coloured (xs.map found).flatten
      (xs.map fun a => foundThere (turn a)).flatten := by
    clear rearranged ranThere walked ran
    induction xs with
    | nil => exact areMirrored_nil
    | cons a rest ih =>
      rw [List.forall_mem_cons] at h hfound mirrored
      exact mirrored.1.2.append (ih h.2 hfound.2 mirrored.2)
  refine ⟨(ys.map foundThere).flatten, by rw [ranThere]; rfl, ?_⟩
  have order : (ys.map foundThere).flatten.Perm
      (xs.map fun a => foundThere (turn a)).flatten := by
    have turned := (rearranged.map foundThere).flatten
    rwa [List.map_map] at turned
  exact (order.map _).trans pairwise

end

end

/-- Documentations differ from both sides. -/
theorem docsDiffer_comm {before after : Json} (hb : before.hasDistinctKeys = true)
    (ha : after.hasDistinctKeys = true) : docsDiffer after before = docsDiffer before after := by
  have distinct {d : Json} (hd : d.hasDistinctKeys = true) :
      (if d.isTruthy then d else .null).hasDistinctKeys = true := by
    split
    · exact hd
    · rfl
  unfold docsDiffer
  dsimp only
  rw [Json.equals_comm (distinct ha) (distinct hb)]

namespace Comparison

/-- Comparisons that treat names alike and, where colours count, look in opposite directions. -/
structure AreOpposed (coloured : Bool) (c d : Comparison) : Prop where
  byName : d.byName = c.byName
  backward : coloured = true → c.mode = .backward
  forward : coloured = true → d.mode = .forward

section

variable {coloured : Bool} {c d : Comparison} {path : Path} {before after : Schema}

theorem AreOpposed.checks (h : AreOpposed coloured c d) (counts : coloured = true) :
    d.mode.checksBackward = c.mode.checksForward ∧
      d.mode.checksForward = c.mode.checksBackward ∧ d.mode.isChecking = c.mode.isChecking := by
  rw [h.backward counts, h.forward counts]
  exact ⟨rfl, rfl, rfl⟩

theorem runsMirrored_typeChange (h : AreOpposed coloured c d) :
    RunsMirrored coloured (c.typeChange path before after) (d.typeChange path after before) := by
  intro entries ran
  unfold typeChange at ran ⊢
  obtain ⟨old, hold, ran⟩ := bind_eq_ok.mp ran
  obtain ⟨new, hnew, ran⟩ := bind_eq_ok.mp ran
  obtain rfl := pure_eq_ok.mp ran
  rw [h.byName, hold, hnew]
  refine ⟨_, rfl, areMirrored_singleton rfl rfl rfl rfl fun counts => ?_⟩
  obtain ⟨backward, forward, -⟩ := h.checks counts
  unfold Schema.isBreakingChange
  rw [backward, forward, Bool.or_comm]

theorem signaturesDiffer_turned (h : AreOpposed coloured c d) (hb : before.IsWellFormed)
    (ha : after.IsWellFormed) {differs : Bool} (ran : c.signaturesDiffer before after = .ok differs) :
    d.signaturesDiffer after before = .ok differs := by
  obtain ⟨old, new, hold, hnew, rfl⟩ := signaturesDiffer_eq_ok ran
  have symmetric : new.equals old = old.equals new :=
    Json.equals_comm (Schema.hasDistinctKeys_namedSignature ha.name hnew)
      (Schema.hasDistinctKeys_namedSignature hb.name hold)
  unfold signaturesDiffer
  rw [h.byName, hold, hnew, ← symmetric]
  rfl

/-- Types that are compared by their signatures. -/
theorem runsMirrored_bySignature (h : AreOpposed coloured c d) (hb : before.IsWellFormed)
    (ha : after.IsWellFormed) :
    RunsMirrored coloured
      (do if ← c.signaturesDiffer before after then c.typeChange path before after else return [])
      (do if ← d.signaturesDiffer after before then d.typeChange path after before
          else return []) := by
  intro entries ran
  obtain ⟨differs, hd, ran⟩ := bind_eq_ok.mp ran
  rw [signaturesDiffer_turned h hb ha hd]
  cases differs with
  | true => exact runsMirrored_typeChange h entries ran
  | false => exact runsMirrored_ok areMirrored_nil entries ran

theorem runsMirrored_fieldTypeEntries (h : AreOpposed coloured c d) (hb : before.IsWellFormed)
    (ha : after.IsWellFormed) :
    RunsMirrored coloured (c.fieldTypeEntries path before after)
      (d.fieldTypeEntries path after before) := by
  have symmetric : kindSwapped after before = kindSwapped before after := by
    unfold kindSwapped
    rw [bne_comm, Bool.and_assoc, Bool.and_assoc, Bool.and_comm after.kind.isStructured]
  unfold fieldTypeEntries
  rw [symmetric]
  exact runsMirrored_ite Iff.rfl (fun _ => runsMirrored_typeChange h)
    fun _ => runsMirrored_bySignature h hb ha

theorem areMirrored_fieldDetails (h : AreOpposed coloured c d) {old new : Field}
    (old_doc : old.documentation.hasDistinctKeys = true) (old_default : old.default.hasDistinctKeys = true)
    (new_doc : new.documentation.hasDistinctKeys = true) (new_default : new.default.hasDistinctKeys = true) :
    AreMirrored coloured (c.fieldDetails path old new) (d.fieldDetails path new old) := by
  have defaults : (new.hasDefault != old.hasDefault ||
        (new.hasDefault && !new.default.equals old.default)) =
      (old.hasDefault != new.hasDefault ||
        (old.hasDefault && !old.default.equals new.default)) := by
    rw [Json.equals_comm new_default old_default]
    cases old.hasDefault <;> cases new.hasDefault <;> rfl
  unfold fieldDetails
  refine AreMirrored.append ?_ (AreMirrored.append ?_ ?_)
  · refine areMirrored_ite eq_comm (fun _ => areMirrored_nil) fun _ => ?_
    exact areMirrored_singleton rfl rfl rfl rfl fun counts => (h.checks counts).2.2
  · rw [defaults]
    refine areMirrored_ite Iff.rfl (fun _ => ?_) fun _ => areMirrored_nil
    exact areMirrored_singleton rfl rfl rfl rfl fun _ => rfl
  · rw [docsDiffer_comm old_doc new_doc]
    refine areMirrored_ite Iff.rfl (fun _ => ?_) fun _ => areMirrored_nil
    exact areMirrored_singleton rfl rfl rfl rfl fun _ => rfl

theorem areMirrored_headChanges (h : AreOpposed coloured c d) (hb : before.IsWellFormed)
    (ha : after.IsWellFormed) :
    AreMirrored coloured (c.headChanges path before after) (d.headChanges path after before) := by
  unfold headChanges
  dsimp only
  refine AreMirrored.append (AreMirrored.append ?_ ?_) ?_
  · rw [Json.equals_comm ha.name hb.name]
    refine areMirrored_ite Iff.rfl (fun _ => areMirrored_nil) fun _ => ?_
    refine areMirrored_singleton rfl rfl rfl rfl fun counts => ?_
    rw [(h.checks counts).2.2, h.byName]
  · refine areMirrored_ite eq_comm (fun _ => areMirrored_nil) fun _ => ?_
    exact areMirrored_singleton rfl rfl rfl rfl fun _ => rfl
  · rw [docsDiffer_comm hb.documentation ha.documentation]
    refine areMirrored_ite Iff.rfl (fun _ => ?_) fun _ => areMirrored_nil
    exact areMirrored_singleton rfl rfl rfl rfl fun _ => rfl

/-- The symbols that have a value. -/
theorem map_fst_zip_eq_take {α β : Type} (xs : List α) (ys : List β) :
    (xs.zip ys).map Prod.fst = xs.take ys.length := by
  induction xs generalizing ys with
  | nil => simp
  | cons x rest ih =>
    cases ys with
    | nil => rfl
    | cons y others => simp [ih]

/-- The symbols that have another value on the other side. -/
theorem mem_renumbered {symbol : String} : symbol ∈ renumbered before after ↔
    ∃ v w, symbolValue? before symbol = some v ∧ symbolValue? after symbol = some w ∧ v ≠ w := by
  unfold renumbered
  rw [List.mem_filter, List.mem_eraseDups]
  constructor
  · rintro ⟨-, h⟩
    split at h
    · rename_i v w hv hw
      exact ⟨v, w, hv, hw, by simpa using h⟩
    · cases h
  · rintro ⟨v, w, hv, hw, hne⟩
    refine ⟨?_, by simpa [hv, hw] using hne⟩
    unfold symbolValue? at hv
    obtain ⟨entry, found, -⟩ := Option.map_eq_some_iff.mp hv
    have listed : entry ∈ before.symbols.zip before.symbolValues :=
      List.mem_reverse.mp (List.mem_of_find?_eq_some found)
    have named : entry.1 = symbol := by simpa using List.find?_some found
    rw [← map_fst_zip_eq_take, ← named]
    exact List.mem_map_of_mem listed

theorem isEmpty_renumbered_comm (before after : Schema) :
    (renumbered after before).isEmpty = (renumbered before after).isEmpty := by
  rw [Bool.eq_iff_iff, List.isEmpty_iff, List.isEmpty_iff, List.eq_nil_iff_forall_not_mem,
    List.eq_nil_iff_forall_not_mem]
  refine forall_congr' fun symbol => not_congr ?_
  rw [mem_renumbered, mem_renumbered]
  constructor
  · rintro ⟨v, w, hv, hw, hne⟩
    exact ⟨w, v, hw, hv, hne.symm⟩
  · rintro ⟨v, w, hv, hw, hne⟩
    exact ⟨w, v, hw, hv, hne.symm⟩

theorem sameSymbols_comm : sameSymbols after before = sameSymbols before after := by
  unfold sameSymbols
  by_cases same : before.symbols = after.symbols
  · rw [same]
    congr 2
    funext s
    exact Bool.beq_comm
  · rw [beq_eq_false_iff_ne.mpr same, beq_eq_false_iff_ne.mpr (Ne.symm same), Bool.false_and,
      Bool.false_and]

theorem areMirrored_symbolChanges (h : AreOpposed coloured c d) :
    AreMirrored coloured (c.symbolChanges path before after)
      (d.symbolChanges path after before) := by
  unfold symbolChanges
  rw [sameSymbols_comm]
  refine areMirrored_ite Iff.rfl (fun _ => areMirrored_nil) fun _ => ?_
  refine areMirrored_singleton rfl rfl rfl rfl fun counts => ?_
  obtain ⟨backward, forward, checking⟩ := h.checks counts
  dsimp only
  rw [backward, forward, checking, isEmpty_renumbered_comm before after]
  congr 1
  exact Bool.or_comm ..

/-- In one direction only, the loss of a field is breaking where its gain is in the other one. -/
theorem removalBreaks_eq (notFile : before.kind ≠ .file) (notFull : c.mode.direction ≠ .full)
    (f : Field) :
    c.removalBreaks (before.kind == .file) f = (c.mode.isChecking && !f.hasDefault) := by
  simp [removalBreaks, notFile, notFull]

/-- The fields that one side loses are those that the other one gains. -/
theorem runsMirrored_removals (h : AreOpposed coloured c d)
    (notFile : coloured = true → before.kind ≠ .file ∧ after.kind ≠ .file) :
    RunsMirrored coloured (c.removals path before after) (d.additions path after before) := by
  unfold removals additions
  refine runsMirrored_entries fun f _ e he => ?_
  obtain ⟨shown, hs, he⟩ := bind_eq_ok.mp he
  obtain rfl := pure_eq_ok.mp he
  rw [h.byName, hs]
  refine ⟨_, rfl, areMirrored_singleton rfl rfl rfl rfl fun counts => ?_⟩
  obtain ⟨hb, ha⟩ := notFile counts
  have oneWay : c.mode.direction ≠ .full := by rw [h.backward counts]; decide
  rw [removalBreaks_eq hb oneWay, (h.checks counts).2.2, bne_iff_ne.mpr ha, Bool.and_true]

/-- The fields that one side gains are those that the other one loses. -/
theorem runsMirrored_additions (h : AreOpposed coloured c d)
    (notFile : coloured = true → before.kind ≠ .file ∧ after.kind ≠ .file) :
    RunsMirrored coloured (c.additions path before after) (d.removals path after before) := by
  unfold removals additions
  refine runsMirrored_entries fun f _ e he => ?_
  obtain ⟨shown, hs, he⟩ := bind_eq_ok.mp he
  obtain rfl := pure_eq_ok.mp he
  rw [h.byName, hs]
  refine ⟨_, rfl, areMirrored_singleton rfl rfl rfl rfl fun counts => ?_⟩
  obtain ⟨hb, ha⟩ := notFile counts
  have oneWay : d.mode.direction ≠ .full := by rw [h.forward counts]; decide
  rw [removalBreaks_eq ha oneWay, (h.checks counts).2.2, bne_iff_ne.mpr hb, Bool.and_true]

theorem matchesNamed_comm (h : AreOpposed coloured c d) (hb : before.IsWellFormed)
    (ha : after.IsWellFormed) : d.matchesNamed after before = c.matchesNamed before after := by
  unfold matchesNamed
  rw [h.byName, Bool.beq_comm, Json.equals_comm (Schema.hasDistinctKeys_qualifiedName ha.name)
    (Schema.hasDistinctKeys_qualifiedName hb.name)]

/-- The named types below two types are compared from both sides or from none. -/
theorem matchedNamed?_turned (h : AreOpposed coloured c d) (hb : before.IsWellFormed)
    (ha : after.IsWellFormed) :
    d.matchedNamed? after before = (c.matchedNamed? before after).map Prod.swap := by
  unfold matchedNamed?
  cases hold : before.unwrapNamed with
  | none =>
    cases after.unwrapNamed with
    | none => rfl
    | some new => rfl
  | some old =>
    cases hnew : after.unwrapNamed with
    | none => rfl
    | some new =>
      have symmetric := matchesNamed_comm h (hb.node (Schema.of_unwrapNamed_eq_some hold).1)
        (ha.node (Schema.of_unwrapNamed_eq_some hnew).1)
      dsimp only
      rw [symmetric]
      split
      · rfl
      · rfl

end

section

variable {before after : Schema} {old new : Field}

/-- A field that is shared is shared from both sides. -/
theorem mem_sharedFields_turned (hb : before.IsWellFormed)
    (h : (old, new) ∈ sharedFields before.fields after) :
    (new, old) ∈ sharedFields after.fields before := by
  obtain ⟨hold, hnew⟩ := mem_sharedFields.mp h
  obtain ⟨hmem, name⟩ := Schema.of_field?_eq_some hnew
  exact mem_sharedFields.mpr ⟨hmem, name ▸ hb.field?_of_mem hold⟩

theorem nodup_sharedFields (hb : before.IsWellFormed) (after : Schema) :
    (sharedFields before.fields after).Nodup := by
  refine List.Nodup.filterMap ?_ (List.Nodup.of_map _ hb.distinctFields)
  rintro f g pair hf hg
  obtain ⟨_, -, rfl⟩ := Option.map_eq_some_iff.mp hf
  obtain ⟨_, -, same⟩ := Option.map_eq_some_iff.mp hg
  exact (Prod.mk.inj same).1.symm

/-- Both sides share the same pairs of fields, if not in the same order. -/
theorem sharedFields_turned (hb : before.IsWellFormed) (ha : after.IsWellFormed) :
    (sharedFields after.fields before).Perm
      ((sharedFields before.fields after).map Prod.swap) := by
  have turned := (nodup_sharedFields hb after).map Prod.swap_injective
  refine (List.perm_ext_iff_of_nodup (nodup_sharedFields ha before) turned).mpr ?_
  rintro ⟨new, old⟩
  rw [List.mem_map]
  constructor
  · intro h
    exact ⟨(old, new), mem_sharedFields_turned ha h, rfl⟩
  · rintro ⟨⟨_, _⟩, h, same⟩
    cases same
    exact mem_sharedFields_turned hb h

end

/-- The induction follows the named types downwards: below a shared field, it goes on with smaller
ones, and these are no files. -/
theorem runsMirrored_namedChanges {coloured : Bool} {c d : Comparison}
    (h : AreOpposed coloured c d) {before after : Schema} (path : Path) (hb : before.IsWellFormed)
    (ha : after.IsWellFormed) (kinds : after.kind = before.kind)
    (notFile : coloured = true → before.kind ≠ .file) :
    RunsMirrored coloured (c.namedChanges path before after)
      (d.namedChanges path after before) := by
  by_cases enum : before.kind = .enum
  · rw [namedChanges_enum c path enum, namedChanges_enum d path (kinds.trans enum)]
    exact runsMirrored_ok
      ((areMirrored_headChanges h hb ha).append (areMirrored_symbolChanges h))
  have bothNotFile : coloured = true → before.kind ≠ .file ∧ after.kind ≠ .file :=
    fun counts => ⟨notFile counts, kinds ▸ notFile counts⟩
  have pairs : RunsMirrored coloured
      (List.flatten <$> (sharedFields before.fields after).mapM (c.pairChanges path))
      (List.flatten <$> (sharedFields after.fields before).mapM (d.pairChanges path)) := by
    refine runsMirrored_flatten (sharedFields_turned hb ha) fun pair hp => ?_
    obtain ⟨old, new⟩ := pair
    obtain ⟨hold, found⟩ := mem_sharedFields.mp hp
    obtain ⟨hnew, name⟩ := Schema.of_field?_eq_some found
    have oldType := hb.field hold
    have newType := ha.field hnew
    unfold pairChanges
    dsimp only [Prod.swap]
    rw [name, fieldChanges_eq, fieldChanges_eq]
    refine RunsMirrored.append ?_ ?_
    · have oldValues := hb.fieldValues hold
      have newValues := ha.fieldValues hnew
      refine (runsMirrored_fieldTypeEntries h oldType newType).append (runsMirrored_ok ?_)
      exact areMirrored_fieldDetails h oldValues.1 oldValues.2 newValues.1 newValues.2
    · rw [nestedChanges_eq_matched, nestedChanges_eq_matched,
        matchedNamed?_turned h oldType newType]
      cases matched : c.matchedNamed? old.type new.type with
      | none => exact runsMirrored_ok areMirrored_nil
      | some named =>
        obtain ⟨oldNamed, newNamed⟩ := named
        have smaller : sizeOf oldNamed < sizeOf before := sizeOf_matched_lt hp matched
        obtain ⟨oldStands, newStands, same⟩ := matchedNamed?_eq_some.mp matched
        obtain ⟨oldNode, named⟩ := Schema.of_unwrapNamed_eq_some oldStands
        obtain ⟨newNode, -⟩ := Schema.of_unwrapNamed_eq_some newStands
        rw [matchesNamed, Bool.and_eq_true, beq_iff_eq] at same
        refine runsMirrored_namedChanges h _ (oldType.node oldNode) (newType.node newNode)
          same.1.symm fun _ file => ?_
        rw [Schema.isNamed, file] at named
        cases named
  rw [namedChanges_container c path enum, namedChanges_container d path (kinds ▸ enum)]
  intro entries ran
  obtain ⟨removed, hr, ran⟩ := bind_eq_ok.mp ran
  obtain ⟨added, hadd, ran⟩ := bind_eq_ok.mp ran
  obtain ⟨changed, hc, ran⟩ := bind_eq_ok.mp ran
  obtain rfl := pure_eq_ok.mp ran
  obtain ⟨gained, hg, lost⟩ := runsMirrored_removals h bothNotFile removed hr
  obtain ⟨dropped, hd, new⟩ := runsMirrored_additions h bothNotFile added hadd
  obtain ⟨others, ho, shared⟩ := pairs changed hc
  refine ⟨d.headChanges path after before ++ dropped ++ gained ++ others, ?_, ?_⟩
  · rw [hd, hg, ho]
    rfl
  · rw [List.append_assoc _ removed, List.append_assoc _ dropped]
    exact ((areMirrored_headChanges h hb ha).append (lost.cross new)).append shared
termination_by sizeOf before

theorem runsMirrored_rootChanges {coloured : Bool} {c d : Comparison}
    (h : AreOpposed coloured c d) {before after : Schema} (hb : before.IsWellFormed)
    (ha : after.IsWellFormed)
    (notFile : coloured = true → before.kind ≠ .file ∨ after.kind ≠ .file) :
    RunsMirrored coloured (c.rootChanges before after) (d.rootChanges after before) := by
  unfold rootChanges
  refine runsMirrored_ite ne_comm (fun _ => ?_) fun same => ?_
  · rw [Bool.or_comm]
    refine runsMirrored_ite Iff.rfl (fun _ => ?_) fun _ => runsMirrored_typeChange h
    exact runsMirrored_ok (areMirrored_singleton rfl rfl rfl rfl fun _ => rfl)
  have kinds : after.kind = before.kind := (not_not.mp same).symm
  rw [kinds]
  refine runsMirrored_ite Iff.rfl (fun _ => ?_) fun _ => runsMirrored_bySignature h hb ha
  refine runsMirrored_namedChanges h [] hb ha kinds fun counts => ?_
  obtain hne | hne := notFile counts
  · exact hne
  · exact kinds ▸ hne

end Comparison

/-- The comparison of two schemas read from the other side. -/
theorem runsMirrored_diff {coloured : Bool} {before after : SchemaInput} {m n : Mode}
    (directions : coloured = true → m = .backward ∧ n = .forward)
    (hb : before.root.IsWellFormed) (ha : after.root.IsWellFormed)
    (notFile : coloured = true → before.root.kind ≠ .file ∨ after.root.kind ≠ .file) :
    RunsMirrored coloured (diff before after m) (diff after before n) := by
  have opposed (byName : Bool) : Comparison.AreOpposed coloured ⟨m, byName⟩ ⟨n, byName⟩ :=
    ⟨rfl, fun counts => (directions counts).1, fun counts => (directions counts).2⟩
  unfold diff
  rw [Bool.or_comm after.hasLabels]
  exact Comparison.runsMirrored_rootChanges (opposed _) hb ha notFile

/-- Runs that mirror each other both fail, or both succeed. -/
theorem RunsMirrored.outcomes {coloured coloured' : Bool} {run other : Entries}
    (h : RunsMirrored coloured run other) (h' : RunsMirrored coloured' other run) :
    (∃ f g, run = .error f ∧ other = .error g) ∨
      ∃ entries others, run = .ok entries ∧ other = .ok others ∧
        AreMirrored coloured entries others := by
  cases ran : run with
  | ok entries =>
    obtain ⟨others, ho, same⟩ := h entries ran
    exact .inr ⟨entries, others, rfl, ho, same⟩
  | error f =>
    cases there : other with
    | error g => exact .inl ⟨f, g, rfl, rfl⟩
    | ok others =>
      obtain ⟨entries, he, -⟩ := h' others there
      rw [ran] at he
      cases he

/-- When two schemas change places, the comparison finds the mirror images of its entries, under any
two modes. Backward on one side and forward on the other, an entry and its image are breaking alike,
as long as not both roots are files. -/
theorem diff_mirrors {a b : SchemaInput} (ha : a.root.IsWellFormed) (hb : b.root.IsWellFormed) :
    (∀ m n, (∃ f g, diff a b m = .error f ∧ diff b a n = .error g) ∨
      ∃ entries others, diff a b m = .ok entries ∧ diff b a n = .ok others ∧
        AreMirrored false entries others) ∧
    (a.root.kind ≠ .file ∨ b.root.kind ≠ .file →
      (∃ f g, diff a b .backward = .error f ∧ diff b a .forward = .error g) ∨
      ∃ entries others, diff a b .backward = .ok entries ∧ diff b a .forward = .ok others ∧
        AreMirrored true entries others) := by
  have uncoloured {s t : SchemaInput} (hs : s.root.IsWellFormed) (ht : t.root.IsWellFormed)
      (m n : Mode) : RunsMirrored false (diff s t m) (diff t s n) :=
    runsMirrored_diff nofun hs ht nofun
  refine ⟨fun m n => (uncoloured ha hb m n).outcomes (uncoloured hb ha n m), fun notFile => ?_⟩
  have coloured : RunsMirrored true (diff a b .backward) (diff b a .forward) :=
    runsMirrored_diff (fun _ => ⟨rfl, rfl⟩) ha hb fun _ => notFile
  exact coloured.outcomes (uncoloured hb ha .forward .backward)

/-- A person with an age of a given type and some other fields. -/
def agedPerson (word : String) (others : List Field) : Schema :=
  { kind := .record, name := .str "Person",
    fields := { name := "age", type := { kind := .primitive, typeName := some word } } :: others }

def nameField : Field := { name := "name", type := { kind := .primitive, typeName := some "string" } }

theorem diff_mirrors_person :
    (agedPerson "int" []).IsWellFormed ∧ (agedPerson "long" [nameField]).IsWellFormed ∧
      ∃ entries others,
        diff (.model (agedPerson "int" [])) (.model (agedPerson "long" [nameField])) .backward =
          .ok entries ∧
        diff (.model (agedPerson "long" [nameField])) (.model (agedPerson "int" [])) .forward =
          .ok others ∧
        AreMirrored true entries others ∧ entries.map (·.breaking) = [true, false] := by
  have before : (agedPerson "int" []).IsWellFormed := by
    unfold Schema.IsWellFormed
    decide
  have after : (agedPerson "long" [nameField]).IsWellFormed := by
    unfold Schema.IsWellFormed
    decide
  have colours : List.map DiffEntry.breaking <$> diff (.model (agedPerson "int" []))
      (.model (agedPerson "long" [nameField])) .backward = .ok [true, false] := by
    cbv
  obtain ⟨entries, ran, breaking⟩ := map_eq_ok.mp colours
  have notFile : (agedPerson "int" []).kind ≠ .file := by decide
  obtain ⟨f, g, failed, -⟩ | ⟨found, others, here, there, same⟩ :=
    (diff_mirrors (a := .model (agedPerson "int" []))
      (b := .model (agedPerson "long" [nameField])) before after).2 (.inl notFile)
  · rw [ran] at failed
    cases failed
  · rw [ran] at here
    cases here
    exact ⟨before, after, entries, others, ran, there, same, breaking⟩

end SchemaReview
