import SchemaReview.Proofs.Compatibility.Batch

/-!
# The order in which results arrive

Workers record the results of a batch as they come to them, so the results may arrive in any order.
The report is sorted by identifiers, and results of one identifier stay as they arrived: it does not
depend on the order exactly where results that share an identifier are equal.
-/
namespace SchemaReview

/-! ### Sorted lists -/

section

variable {α β : Type} [BEq β] [LawfulBEq β] {key : α → β}

/-- The elements that two lists hold under each key are those that they hold. -/
theorem mem_of_filters_eq {xs ys : List α}
    (same : ∀ k, (xs.filter fun a => key a == k) = ys.filter fun a => key a == k) {a : α}
    (ha : a ∈ xs) : a ∈ ys := by
  have kept : a ∈ xs.filter fun b => key b == key a := List.mem_filter.mpr ⟨ha, beq_self_eq_true _⟩
  rw [same] at kept
  exact (List.mem_filter.mp kept).1

/-- Two lists in ascending order are equal if they hold the same elements under each key, in the
same order. -/
theorem eq_of_filters_eq [LE β] (antisymm : ∀ i j : β, i ≤ j → j ≤ i → i = j) {xs ys : List α}
    (hx : xs.Pairwise fun a b => key a ≤ key b) (hy : ys.Pairwise fun a b => key a ≤ key b)
    (same : ∀ k, (xs.filter fun a => key a == k) = ys.filter fun a => key a == k) : xs = ys := by
  induction xs generalizing ys with
  | nil =>
    refine (List.eq_nil_iff_forall_not_mem.mpr fun b hb => ?_).symm
    exact List.not_mem_nil (mem_of_filters_eq (fun k => (same k).symm) hb)
  | cons a rest ih =>
    cases ys with
    | nil => exact absurd (mem_of_filters_eq same List.mem_cons_self) List.not_mem_nil
    | cons b others =>
      have keys : key a = key b := by
        obtain rfl | hb := List.mem_cons.mp
          (mem_of_filters_eq (fun k => (same k).symm) List.mem_cons_self : b ∈ a :: rest)
        · rfl
        obtain rfl | ha := List.mem_cons.mp
          (mem_of_filters_eq same List.mem_cons_self : a ∈ b :: others)
        · rfl
        · exact antisymm _ _ (List.rel_of_pairwise_cons hx hb) (List.rel_of_pairwise_cons hy ha)
      -- Both lists begin with the first element of that key.
      have first := same (key a)
      simp only [List.filter_cons, beq_self_eq_true, ← keys, if_true] at first
      obtain ⟨rfl, -⟩ := List.cons.inj first
      rw [ih hx.of_cons hy.of_cons fun k => ?_]
      have both := same k
      rw [List.filter_cons, List.filter_cons] at both
      split at both
      · exact List.tail_eq_of_cons_eq both
      · exact both

end

/-! ### Recording -/

/-- A batch under way: the results that are still to come, and those that were recorded, in the order
in which they were. -/
structure Recording (ρ : Type) where
  pending : List (BatchRecord ρ)
  arrived : List (BatchRecord ρ)

namespace Recording

variable {ρ : Type}

/-- Some worker records a result. -/
inductive Step : Recording ρ → Recording ρ → Prop where
  | record (r : BatchRecord ρ) (before after arrived : List (BatchRecord ρ)) :
    Step ⟨before ++ r :: after, arrived⟩ ⟨before ++ after, arrived ++ [r]⟩

/-- All results of the batch, wherever they are. -/
def all (s : Recording ρ) : List (BatchRecord ρ) := s.arrived ++ s.pending

/-- A step loses no result and makes none. -/
theorem Step.perm {s t : Recording ρ} (h : Step s t) : t.all.Perm s.all := by
  obtain ⟨r, before, after, arrived⟩ := h
  unfold all
  dsimp only
  rw [List.append_assoc, List.singleton_append]
  exact List.perm_middle.symm.append_left arrived

theorem perm_of_steps {s t : Recording ρ} (h : Relation.ReflTransGen Step s t) :
    t.all.Perm s.all := by
  induction h with
  | refl => exact .refl _
  | tail _ step ih => exact step.perm.trans ih

/-- Whatever is still to come can be recorded in any order. -/
theorem steps_of_perm {pending order : List (BatchRecord ρ)} (h : order.Perm pending)
    (arrived : List (BatchRecord ρ)) :
    Relation.ReflTransGen Step ⟨pending, arrived⟩ ⟨[], arrived ++ order⟩ := by
  induction order generalizing pending arrived with
  | nil =>
    rw [List.nil_perm.mp h, List.append_nil]
  | cons r rest ih =>
    obtain ⟨before, after, rfl⟩ := List.append_of_mem (h.mem_iff.mp List.mem_cons_self)
    have others : rest.Perm (before ++ after) := (h.trans List.perm_middle).cons_inv
    have rest := ih others (arrived ++ [r])
    rw [List.append_assoc, List.singleton_append] at rest
    exact .head (.record r before after arrived) rest

end Recording

/-- The results of a batch can be recorded in some order. -/
def CanArrive {ρ : Type} (results order : List (BatchRecord ρ)) : Prop :=
  Relation.ReflTransGen Recording.Step ⟨results, []⟩ ⟨[], order⟩

theorem canArrive_iff {ρ : Type} {results order : List (BatchRecord ρ)} :
    CanArrive results order ↔ order.Perm results := by
  constructor
  · intro h
    have kept := Recording.perm_of_steps h
    simpa [Recording.all] using kept
  · exact fun h => Recording.steps_of_perm h []

/-! ### The report -/

section

variable {ρ : Type} {results xs ys : List (BatchRecord ρ)}

theorem isSortedBy_finalize (records : List (BatchRecord ρ)) :
    IsSortedBy BatchRecord.identifier records (BatchRecord.finalize records) :=
  isSortedBy_mergeSort BatchRecord.identifier (fun _ _ _ => String.le_trans) String.le_total records

/-- Two lists of records have the same report exactly if they agree on each identifier. -/
theorem finalize_eq_iff :
    BatchRecord.finalize xs = BatchRecord.finalize ys ↔
      ∀ k, (xs.filter fun r => r.identifier == k) = ys.filter fun r => r.identifier == k := by
  have hx := isSortedBy_finalize xs
  have hy := isSortedBy_finalize ys
  constructor
  · intro same k
    rw [← hx.stable k, same, hy.stable k]
  · intro same
    refine eq_of_filters_eq (fun _ _ => String.le_antisymm) hx.ascending hy.ascending fun k => ?_
    rw [hx.stable k, same k, hy.stable k]

/-- Rearranged lists of elements that are all equal are equal. -/
theorem eq_of_perm_of_all_eq {α : Type} {us vs : List α} (h : us.Perm vs)
    (equal : ∀ a ∈ us, ∀ b ∈ us, a = b) : us = vs := by
  cases us with
  | nil => exact (List.nil_perm.mp h).symm
  | cons a rest =>
    have here : a :: rest = List.replicate (a :: rest).length a :=
      List.eq_replicate_of_mem fun b hb => equal b hb a List.mem_cons_self
    have there : vs = List.replicate vs.length a :=
      List.eq_replicate_of_mem fun b hb => equal b (h.mem_iff.mpr hb) a List.mem_cons_self
    rw [here, there, h.length_eq]

/-- Two elements of a list can be put in front of the others. -/
theorem exists_perm_of_mem {α : Type} {us : List α} {a b : α} (ha : a ∈ us) (hb : b ∈ us)
    (apart : a ≠ b) : ∃ others, us.Perm (a :: b :: others) := by
  obtain ⟨before, after, rfl⟩ := List.append_of_mem ha
  have first : (before ++ a :: after).Perm (a :: (before ++ after)) := List.perm_middle
  have left : b ∈ before ++ after := by
    obtain rfl | hb := List.mem_cons.mp (first.mem_iff.mp hb)
    · exact absurd rfl apart
    · exact hb
  obtain ⟨front, back, split⟩ := List.append_of_mem left
  rw [split] at first
  exact ⟨front ++ back, first.trans (List.perm_middle.cons a)⟩

/-- The report of a batch depends on the order in which the results arrive only through results of
one identifier: it is the same for two orders if those of each identifier arrive alike. So it is the
same for all orders exactly if results that share an identifier are equal. -/
theorem finalize_of_arrivals (results : List (BatchRecord ρ)) :
    (∀ xs ys, CanArrive results xs → CanArrive results ys →
      (BatchRecord.finalize xs = BatchRecord.finalize ys ↔
        ∀ k, (xs.filter fun r => r.identifier == k) = ys.filter fun r => r.identifier == k)) ∧
    ((∀ xs ys, CanArrive results xs → CanArrive results ys →
        BatchRecord.finalize xs = BatchRecord.finalize ys) ↔
      ∀ a ∈ results, ∀ b ∈ results, a.identifier = b.identifier → a = b) := by
  refine ⟨fun _ _ _ _ => finalize_eq_iff, ?_, ?_⟩
  · intro always a ha b hb same
    by_contra apart
    obtain ⟨others, order⟩ := exists_perm_of_mem ha hb apart
    have turned : (b :: a :: others).Perm results := (List.Perm.swap a b others).trans order.symm
    have reports := always _ _ (canArrive_iff.mpr order.symm) (canArrive_iff.mpr turned)
    have first := finalize_eq_iff.mp reports a.identifier
    simp only [List.filter_cons, beq_self_eq_true, same, if_true] at first
    exact apart (List.cons.inj first).1
  · intro equal xs ys hx hy
    rw [canArrive_iff] at hx hy
    refine finalize_eq_iff.mpr fun k => ?_
    refine eq_of_perm_of_all_eq ((hx.trans hy.symm).filter _) fun a ha b hb => ?_
    rw [List.mem_filter, beq_iff_eq] at ha hb
    exact equal a (hx.mem_iff.mp ha.1) b (hx.mem_iff.mp hb.1) (ha.2.trans hb.2.symm)

end

/-! ### Checks of sources without and with file names -/

/-- The result of a source that was refused. -/
def refusedResult (identifier : String) (place : Option String) (error : String) : CheckResult :=
  ⟨identifier, .incompatible, .backward, [], [], place, some error⟩

theorem checkSource_blank (origin : Option Origin) :
    (checkSource ⟨"", some .avro, origin⟩ [] .backward).value =
      .ok (refusedResult (Source.identifier ⟨"", some .avro, origin⟩)
        ((Source.path ⟨"", some .avro, origin⟩).map PosixPath.text) "Schema text is empty") := rfl

theorem checkSource_unnamed :
    (checkSource ⟨"\"int\"", some .avro, none⟩ [] .backward).value =
      .ok (refusedResult "<inline>" none
        "Cannot derive a subject without a schema name or file path") := by
  have read : Source.parse ⟨"\"int\"", some .avro, none⟩ = .ok intDocument := parse_int
  have nameless : Source.subject ⟨"\"int\"", some .avro, none⟩ intDocument =
      .error (.value .noSubject) := by cbv
  unfold checkSource
  rw [Logged.value_bind]
  unfold checkParsed
  rw [read]
  dsimp only
  rw [nameless]
  rfl

/-- The records of some sources that are checked against nothing. -/
def recordsOf (sources : List Source) : Except Failure (List (BatchRecord CheckResult)) :=
  List.map CheckResult.record <$> sources.mapM fun s => (checkSource s [] .backward).value

/-- Two blank texts in files. -/
def blankFiles : List Source :=
  [⟨"", some .avro, some (.named "b.avsc")⟩, ⟨"", some .avro, some (.named "a.avsc")⟩]

/-- Sources in different files are reported alike, whichever result arrives first. -/
theorem finalize_of_arrivals_files :
    ∃ results, recordsOf blankFiles = .ok results ∧ results.length = 2 ∧
      ∀ xs ys, CanArrive results xs → CanArrive results ys →
        BatchRecord.finalize xs = BatchRecord.finalize ys := by
  have made : recordsOf blankFiles = .ok
      [(refusedResult "b.avsc" (some "b.avsc") "Schema text is empty").record,
        (refusedResult "a.avsc" (some "a.avsc") "Schema text is empty").record] := by
    unfold recordsOf blankFiles
    simp only [List.mapM_cons, List.mapM_nil, checkSource_blank]
    rfl
  refine ⟨_, made, rfl, (finalize_of_arrivals _).2.mpr fun a ha b hb same => ?_⟩
  simp only [List.mem_cons, List.not_mem_nil, or_false] at ha hb
  obtain rfl | rfl := ha
  · obtain rfl | rfl := hb
    · rfl
    · exact absurd same (by decide)
  · obtain rfl | rfl := hb
    · exact absurd same (by decide)
    · rfl

/-- A blank text and one without a subject, neither of which is in a file. -/
def inlineSources : List Source := [⟨"", some .avro, none⟩, ⟨"\"int\"", some .avro, none⟩]

/-- Both are known by one name, and their report depends on which result arrives first. -/
theorem inlineSources_orderCounts :
    ∃ results xs ys, recordsOf inlineSources = .ok results ∧ CanArrive results xs ∧
      CanArrive results ys ∧ BatchRecord.finalize xs ≠ BatchRecord.finalize ys := by
  let blank := refusedResult "<inline>" none "Schema text is empty"
  let unnamed := refusedResult "<inline>" none
    "Cannot derive a subject without a schema name or file path"
  have made : recordsOf inlineSources = .ok [blank.record, unnamed.record] := by
    unfold recordsOf inlineSources
    simp only [List.mapM_cons, List.mapM_nil, checkSource_blank, checkSource_unnamed]
    rfl
  refine ⟨_, [blank.record, unnamed.record], [unnamed.record, blank.record], made,
    canArrive_iff.mpr (.refl _), canArrive_iff.mpr (.swap _ _ _), fun same => ?_⟩
  have first := finalize_eq_iff.mp same "<inline>"
  have errors := congrArg (List.map fun r => r.payload.error) first
  exact absurd errors (by decide)

end SchemaReview
