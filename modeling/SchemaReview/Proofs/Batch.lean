import SchemaReview.Batch
import SchemaReview.Log
import SchemaReview.Proofs.Outcome
import SchemaReview.Proofs.Sorting
import SchemaReview.Source.Basic

/-!
# The runs of a batch and their report

The items of a batch are run one after the other, and the report lists their results in the order of
their identifiers. Records are made on the way and have no influence on the results.
-/
namespace SchemaReview

namespace Logged

theorem value_bind {α β : Type} (x : Logged α) (f : α → Logged β) :
    (x >>= f).value = (f x.value).value := rfl

theorem value_collect {α β ε : Type} (run : α → Logged (Except ε β)) (xs : List α) :
    (collect run xs).value = xs.mapM fun x => (run x).value := by
  induction xs with
  | nil => rfl
  | cons x rest ih =>
    rw [collect, List.mapM_cons, value_bind]
    cases first : (run x).value with
    | error e => rfl
    | ok y =>
      dsimp only
      rw [value_bind, ih]
      cases rest.mapM fun x => (run x).value with
      | error e => rfl
      | ok ys => rfl

end Logged

/-- The results of a batch are reported in the order of their identifiers, and results of one
identifier in the order of their items. -/
theorem isSortedBy_payloads {ρ : Type} (record : ρ → BatchRecord ρ) {identifier : ρ → String}
    (named : ∀ r, (record r).identifier = identifier r) (kept : ∀ r, (record r).payload = r)
    (results : List ρ) :
    IsSortedBy identifier results
      ((BatchRecord.finalize (results.map record)).map BatchRecord.payload) := by
  have sorted : (BatchRecord.finalize (results.map record)).map BatchRecord.payload =
      results.mergeSort fun a b => identifier a ≤ identifier b := by
    unfold BatchRecord.finalize
    have same : ∀ a ∈ results.map record, ∀ b ∈ results.map record,
        decide (a.identifier ≤ b.identifier) =
          decide (identifier a.payload ≤ identifier b.payload) := by
      intro a ha b hb
      obtain ⟨r, -, rfl⟩ := List.mem_map.mp ha
      obtain ⟨s, -, rfl⟩ := List.mem_map.mp hb
      rw [named, named, kept, kept]
    rw [List.map_mergeSort (s := fun a b => decide (identifier a ≤ identifier b)) same,
      List.map_map]
    congr 1
    exact (List.map_congr_left fun r _ => kept r).trans (List.map_id' results)
  rw [sorted]
  exact isSortedBy_mergeSort identifier (fun _ _ _ => String.le_trans) String.le_total results

/-! ### Batches of sources -/

section

variable {ρ π : Type} (identifier : ρ → String) (results : π → List ρ)
  (run : Source → Except Failure ρ) (cause : Source → Failure → Prop)

/-- A batch of sources comes to a report if no source has a cause for stopping. The report then has
the result of each source, under the name of the source and in the order of the names. Otherwise the
batch stops for a cause at one of its sources. -/
def BatchEnds (sources : List Source) (batch : Except Failure π) : Prop :=
  (∃ (own : Source → ρ) (report : π), batch = .ok report ∧
      IsSortedBy identifier (sources.map own) (results report) ∧
      ∀ s ∈ sources, run s = .ok (own s) ∧ identifier (own s) = s.identifier ∧
        ∀ e, ¬ cause s e) ∨
    ∃ s ∈ sources, ∃ e, cause s e ∧ batch = .error e

variable {identifier results run cause}

/-- A batch runs its sources one after the other and reports on their results. -/
theorem batchEnds_of_mapM [Inhabited ρ] {sources : List Source} (record : ρ → BatchRecord ρ)
    (report : List ρ → π) (listed : ∀ rs, results (report rs) = rs)
    (recorded : ∀ r, (record r).identifier = identifier r ∧ (record r).payload = r)
    (named : ∀ s r, run s = .ok r → identifier r = s.identifier)
    (ends : ∀ s ∈ sources, EndsFor (cause s) (run s)) :
    BatchEnds identifier results run cause sources ((sources.mapM run).map fun rs =>
      report ((BatchRecord.finalize (rs.map record)).map BatchRecord.payload)) := by
  obtain ⟨own, ran, walked, clear⟩ | ⟨s, hs, e, failed, walked⟩ := Ends.mapM_cases ends
  · rw [walked]
    refine .inl ⟨own, _, rfl, ?_, fun s hs => ⟨ran s hs, named s _ (ran s hs), clear s hs⟩⟩
    rw [listed]
    exact isSortedBy_payloads record (fun r => (recorded r).1) (fun r => (recorded r).2) _
  · rw [walked]
    exact .inr ⟨s, hs, e, failed, rfl⟩

theorem BatchEnds.exists_report {sources : List Source} {batch : Except Failure π}
    (h : BatchEnds identifier results run cause sources batch)
    (clear : ∀ s ∈ sources, ∀ e, ¬ cause s e) :
    ∃ report, batch = .ok report ∧ (results report).length = sources.length := by
  obtain ⟨own, report, made, sorted, -⟩ | ⟨s, hs, e, failed, -⟩ := h
  · exact ⟨report, made, by rw [sorted.perm.length_eq, List.length_map]⟩
  · exact (clear s hs e failed).elim

theorem BatchEnds.not_reported {sources : List Source} {batch : Except Failure π}
    (h : BatchEnds identifier results run cause sources batch) {s : Source} (hs : s ∈ sources)
    {e : Failure} (failed : cause s e) : ¬ ∃ report, batch = .ok report := by
  obtain ⟨own, report, -, -, each⟩ | ⟨t, ht, fault, -, stopped⟩ := h
  · exact ((each s hs).2.2 e failed).elim
  · rintro ⟨report, made⟩
    rw [stopped] at made
    cases made

end

end SchemaReview
