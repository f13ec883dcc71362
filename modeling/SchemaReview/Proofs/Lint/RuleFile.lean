import SchemaReview.Lint.RuleFile
import SchemaReview.Proofs.Sorting

/-!
# Outcomes of reading a rule file

A text is a rule file or is refused with an error that names the fault. The faults of a file are
put in order of their places, though, and the keys of rules are values of any sort, among which
there may be no order: where two rules of such keys have values that are none for a rule, reading
fails with the failure of their comparison.
-/
namespace SchemaReview

namespace Datum

/-- The sorts of keys among which there is an order. Points in time with and without a distance
from world time have none. -/
inductive KeySort where
  | number
  | text
  | octets
  | date
  | time (isWorld : Bool)
deriving DecidableEq, Repr

/-- The sort of a key, if keys of its sort have an order. -/
def keySort? : Datum → Option KeySort
  | .bool _ => some .number
  | .int _ => some .number
  | .float _ => some .number
  | .str _ => some .text
  | .bytes _ => some .octets
  | .date .. => some .date
  | .timestamp t => some (.time t.offset.isSome)
  | _ => none

/-- Whether two keys are of one sort. -/
def SameSort (a b : Datum) : Prop := ∃ s, a.keySort? = some s ∧ b.keySort? = some s

theorem SameSort.symm {a b : Datum} (h : SameSort a b) : SameSort b a := by
  obtain ⟨s, ha, hb⟩ := h
  exact ⟨s, hb, ha⟩

theorem SameSort.trans {a b c : Datum} (hab : SameSort a b) (hbc : SameSort b c) :
    SameSort a c := by
  obtain ⟨s, ha, hb⟩ := hab
  obtain ⟨t, hb', hc⟩ := hbc
  obtain rfl := Option.some.inj (hb.symm.trans hb')
  exact ⟨s, ha, hc⟩

/-- Keys have an order if and only if they are of one sort. -/
theorem exists_keyLt_iff {a b : Datum} : (∃ r, keyLt a b = .ok r) ↔ SameSort a b := by
  cases a <;> cases b <;> simp [keyLt, SameSort, keySort?, number?]
  -- two points in time remain
  split
  · rename_i same
    simp only [Except.ok.injEq, decide_eq_false_iff_not, decide_eq_true_eq, same, iff_true]
    omega
  · simp_all [eq_comm]

theorem sameSort_of_sameKey {a b : Datum} (ha : a ≠ .null) (h : a.sameKey b = true) :
    SameSort a b := by
  cases a <;> cases b <;> simp_all [sameKey, SameSort, keySort?, number?]
  -- two points in time remain
  simp_all [Timestamp.isSameInstant]

/-- Paths of one key are put in order if their keys have an order. -/
theorem exists_pathLt_iff {a b : Datum} (ha : a ≠ .null) :
    (∃ r, pathLt [a] [b] = .ok r) ↔ SameSort a b := by
  rw [pathLt, pathLt]
  split
  · rename_i same
    exact iff_of_true ⟨_, rfl⟩ (sameSort_of_sameKey ha same)
  · exact exists_keyLt_iff

end Datum

namespace Lint.RuleFile

open Datum (SameSort pathLt)

/-- The rules of a file whose values are none for a rule, with their keys. -/
def rejectedRules (entries : List (Datum × Datum)) : List (Datum × Datum) :=
  match Datum.textEntry? entries "rules" with
  | some (.mapping rules) => rules.filter fun e => !isRuleValue e.2
  | _ => []

/-- Whether the keys of two rules can be put in order. A null key has no part in a path. -/
def AreOrdered (a b : Datum × Datum) : Prop := ∃ r, pathLt (keyPath a.1) (keyPath b.1) = .ok r

theorem keyPath_of_ne {key : Datum} (present : key ≠ .null) : keyPath key = [key] := by
  cases key with
  | null => exact absurd rfl present
  | _ => rfl

theorem areOrdered_iff {a b : Datum × Datum} :
    AreOrdered a b ↔ a.1 = .null ∨ b.1 = .null ∨ SameSort a.1 b.1 := by
  unfold AreOrdered
  by_cases ha : a.1 = .null
  · rw [ha, keyPath, pathLt]
    exact iff_of_true ⟨_, rfl⟩ (.inl rfl)
  by_cases hb : b.1 = .null
  · rw [hb, keyPath_of_ne ha, keyPath, pathLt]
    simp
  rw [keyPath_of_ne ha, keyPath_of_ne hb, Datum.exists_pathLt_iff ha]
  simp [ha, hb]

theorem AreOrdered.symm {a b : Datum × Datum} (h : AreOrdered a b) : AreOrdered b a := by
  rw [areOrdered_iff] at h ⊢
  obtain null | null | same := h
  · exact .inr (.inl null)
  · exact .inl null
  · exact .inr (.inr same.symm)

/-- The paths at which a file can be at fault. -/
inductive IsFaultPath : List Datum → Prop
  | file : IsFaultPath []
  | rules : IsFaultPath [.str "rules"]
  | rule {key} (present : key ≠ .null) : IsFaultPath [.str "rules", key]
  | strict : IsFaultPath [.str "strict"]
  | version : IsFaultPath [.str "version"]

theorem IsFaultPath.ne_null {key : Datum} (h : IsFaultPath [.str "rules", key]) : key ≠ .null := by
  generalize path : [.str "rules", key] = p at h
  cases h <;> simp_all

/-- The place of a path in the order of paths, that of all rules being one. -/
def rank : List Datum → Nat
  | [] => 0
  | [.str "rules"] => 1
  | [.str "rules", _] => 2
  | [.str "strict"] => 3
  | _ => 4

theorem pathLt_of_rank_ne {p q : List Datum} (hp : IsFaultPath p) (hq : IsFaultPath q)
    (h : rank p ≠ rank q) : pathLt p q = .ok (decide (rank p < rank q)) := by
  cases hp <;> cases hq <;> first | rfl | exact absurd rfl h

/-- Two paths cannot be put in order only if both lead to rules. -/
theorem exists_pathLt {p q : List Datum} (hp : IsFaultPath p) (hq : IsFaultPath q)
    (other : rank p ≠ 2 ∨ rank q ≠ 2) : ∃ r, pathLt p q = .ok r := by
  by_cases same : rank p = rank q
  · cases hp <;> cases hq <;> simp_all [rank, pathLt, Datum.sameKey]
  · exact ⟨_, pathLt_of_rank_ne hp hq same⟩

theorem pathLt_rules (p q : List Datum) :
    pathLt (.str "rules" :: p) (.str "rules" :: q) = pathLt p q := by
  rw [pathLt, if_pos (by simp [Datum.sameKey])]

theorem rank_eq_two {p : List Datum} : rank p = 2 ↔ ∃ key, p = [.str "rules", key] := by
  constructor
  · intro h
    unfold rank at h
    split at h <;> simp_all
  · rintro ⟨key, rfl⟩
    rfl

/-- The order in which the violations of a file are put: by their places, rules being of one place
and one sort of key. -/
def Precedes (v w : Violation) : Prop :=
  rank v.path ≤ rank w.path ∧
    ∀ a b, v.path = [.str "rules", a] → w.path = [.str "rules", b] → SameSort a b

theorem precedes_trans {u v w : Violation} (huv : Precedes u v) (hvw : Precedes v w) :
    Precedes u w := by
  refine ⟨huv.1.trans hvw.1, fun a c ha hc => ?_⟩
  have first : rank u.path = 2 := rank_eq_two.mpr ⟨a, ha⟩
  have last : rank w.path = 2 := rank_eq_two.mpr ⟨c, hc⟩
  obtain ⟨b, hb⟩ := rank_eq_two.mp
    (Nat.le_antisymm (last ▸ hvw.1) (first ▸ huv.1))
  exact (huv.2 a b ha hb).trans (hvw.2 b c hb hc)

/-- The comparison of violations agrees with that order. -/
theorem agrees_precedes : Sorting.Agrees (fun v w : Violation => pathLt v.path w.path)
    (fun v => IsFaultPath v.path) Precedes := by
  have compared {v w : Violation} {r : Bool} (hv : IsFaultPath v.path) (hw : IsFaultPath w.path)
      (h : pathLt v.path w.path = .ok r) :
      (rank v.path = rank w.path ∨ r = decide (rank v.path < rank w.path)) ∧
        ∀ a b, v.path = [.str "rules", a] → w.path = [.str "rules", b] → SameSort a b := by
    constructor
    · by_cases same : rank v.path = rank w.path
      · exact .inl same
      · rw [pathLt_of_rank_ne hv hw same] at h
        exact .inr (Except.ok.inj h).symm
    · intro a b ha hb
      rw [ha] at hv
      rw [ha, hb, pathLt_rules] at h
      exact (Datum.exists_pathLt_iff hv.ne_null).mp ⟨r, h⟩
  constructor
  · exact fun _ _ _ => precedes_trans
  · intro v w hv hw h
    obtain ⟨ranks, keys⟩ := compared hv hw h
    refine ⟨?_, keys⟩
    obtain same | lower := ranks
    · exact same.le
    · exact (of_decide_eq_true lower.symm).le
  · intro v w hv hw h
    obtain ⟨ranks, keys⟩ := compared hv hw h
    refine ⟨?_, fun b a hb ha => (keys a b ha hb).symm⟩
    obtain same | notLower := ranks
    · exact same.ge
    · exact not_lt.mp (of_decide_eq_false notLower.symm)

/-! ### The violations of a file -/

/-- The violation at a rule. -/
def ruleViolation (e : Datum × Datum) : Violation :=
  ⟨.str "rules" :: keyPath e.1, .noRuleValue e.2.shown⟩

theorem isFaultPath_ruleViolation (e : Datum × Datum) : IsFaultPath (ruleViolation e).path := by
  by_cases null : e.1 = .null
  · rw [ruleViolation, null]
    exact .rules
  · rw [ruleViolation, keyPath_of_ne null]
    exact .rule null

/-- The violations of the rules of a file. -/
def violationsOfRules (entries : List (Datum × Datum)) : List Violation :=
  match Datum.textEntry? entries "rules" with
  | none => []
  | some rules => ruleViolations rules

/-- The rules are refused one by one, or as a whole. -/
theorem violationsOfRules_cases (entries : List (Datum × Datum)) :
    violationsOfRules entries = (rejectedRules entries).map ruleViolation ∨
      (rejectedRules entries = [] ∧
        ∃ fault, violationsOfRules entries = [⟨[.str "rules"], fault⟩]) := by
  unfold violationsOfRules rejectedRules
  split
  · rename_i absent
    rw [absent]
    exact .inl rfl
  · rename_i rules found
    rw [found]
    unfold ruleViolations
    split
    · exact .inl rfl
    · rename_i other
      refine .inr ⟨?_, _, rfl⟩
      split
      · rename_i listed
        exact (other _ (Option.some.inj listed)).elim
      · rfl

theorem isFaultPath_of_mem_violationsOfRules {entries : List (Datum × Datum)} {v : Violation}
    (h : v ∈ violationsOfRules entries) : IsFaultPath v.path := by
  obtain each | ⟨-, fault, whole⟩ := violationsOfRules_cases entries
  · rw [each] at h
    obtain ⟨e, -, rfl⟩ := List.mem_map.mp h
    exact isFaultPath_ruleViolation e
  · rw [whole, List.mem_singleton] at h
    subst h
    exact .rules

theorem path_of_mem_typeViolation {entries : List (Datum × Datum)} {key : String}
    {types : List String} {isOfType : Datum → Bool} {v : Violation}
    (h : v ∈ typeViolation entries key types isOfType) : v.path = [.str key] := by
  unfold typeViolation at h
  split at h
  · cases h
  · split at h
    · cases h
    · rw [List.mem_singleton] at h
      subst h
      rfl

/-- The violations of a file are those of its rules, and others before and after them. -/
theorem violations_eq (entries : List (Datum × Datum)) :
    ∃ before after, violations entries = before ++ violationsOfRules entries ++ after ∧
      ∀ v, v ∈ before ∨ v ∈ after → IsFaultPath v.path ∧ rank v.path ≠ 2 := by
  refine ⟨typeViolation entries "version" ["string", "number"] isVersionValue ++
    typeViolation entries "strict" ["boolean"] isBoolean, _, rfl, ?_⟩
  rintro v (h | h)
  · obtain h | h := List.mem_append.mp h
    · rw [path_of_mem_typeViolation h]
      exact ⟨.version, by decide⟩
    · rw [path_of_mem_typeViolation h]
      exact ⟨.strict, by decide⟩
  · split at h
    · cases h
    · rw [List.mem_singleton] at h
      subst h
      exact ⟨.file, by simp [rank]⟩

theorem isFaultPath_of_mem_violations {entries : List (Datum × Datum)} {v : Violation}
    (h : v ∈ violations entries) : IsFaultPath v.path := by
  obtain ⟨before, after, whole, others⟩ := violations_eq entries
  rw [whole, List.mem_append, List.mem_append] at h
  obtain (h | h) | h := h
  · exact (others v (.inl h)).1
  · exact isFaultPath_of_mem_violationsOfRules h
  · exact (others v (.inr h)).1

/-- Where the keys of refused rules have an order, so have all violations. -/
theorem pairwise_violations {entries : List (Datum × Datum)}
    (ordered : (rejectedRules entries).Pairwise AreOrdered) :
    (violations entries).Pairwise
      (Sorting.AreComparable fun v w : Violation => pathLt v.path w.path) := by
  obtain ⟨before, after, whole, others⟩ := violations_eq entries
  have other {v w : Violation} (hv : v ∈ before ∨ v ∈ after) (hw : w ∈ violations entries) :
      Sorting.AreComparable (fun v w : Violation => pathLt v.path w.path) v w := by
    obtain ⟨fault, notRule⟩ := others v hv
    have fault' := isFaultPath_of_mem_violations hw
    exact ⟨exists_pathLt fault fault' (.inl notRule), exists_pathLt fault' fault (.inr notRule)⟩
  have rules : (violationsOfRules entries).Pairwise
      (Sorting.AreComparable fun v w : Violation => pathLt v.path w.path) := by
    obtain each | ⟨-, fault, single⟩ := violationsOfRules_cases entries
    · rw [each, List.pairwise_map]
      refine ordered.imp fun h => ?_
      simp only [Sorting.AreComparable, ruleViolation, pathLt_rules]
      exact ⟨h, h.symm⟩
    · rw [single]
      exact List.pairwise_singleton ..
  have parts {v : Violation} (hv : v ∈ before ∨ v ∈ violationsOfRules entries ∨ v ∈ after) :
      v ∈ violations entries := by
    rw [whole, List.mem_append, List.mem_append, or_assoc]
    exact hv
  rw [whole]
  refine List.pairwise_append.mpr ⟨List.pairwise_append.mpr ⟨?_, rules, ?_⟩, ?_, ?_⟩
  · exact List.pairwise_of_forall_mem_list fun v hv w hw => other (.inl hv) (parts (.inl hw))
  · exact fun v hv w hw => other (.inl hv) (parts (.inr (.inl hw)))
  · exact List.pairwise_of_forall_mem_list fun v hv w hw =>
      other (.inr hv) (parts (.inr (.inr hw)))
  · intro v hv w hw
    obtain hv := List.mem_append.mp hv
    exact (other (.inr hw) (parts (hv.imp_right .inl))).symm

/-- Violations that were put in order are of rules whose keys have an order. -/
theorem pairwise_rejectedRules {entries : List (Datum × Datum)} {sorted : List Violation}
    (h : Sorting.sort (fun v w : Violation => pathLt v.path w.path) (violations entries) =
      .ok sorted) : (rejectedRules entries).Pairwise AreOrdered := by
  obtain ⟨perm, ordered⟩ := Sorting.of_sort_eq_ok agrees_precedes
    (fun v hv => isFaultPath_of_mem_violations hv) h
  have keys : (violations entries).Pairwise fun v w => ∀ a b, v.path = [.str "rules", a] →
      w.path = [.str "rules", b] → SameSort a b :=
    (ordered.imp fun h => h.2).perm perm fun h b a hb ha => (h a b ha hb).symm
  obtain ⟨before, after, whole, -⟩ := violations_eq entries
  rw [whole] at keys
  have ofRules := (List.pairwise_append.mp (List.pairwise_append.mp keys).1).2.1
  obtain each | ⟨none, -⟩ := violationsOfRules_cases entries
  · rw [each, List.pairwise_map] at ofRules
    refine ofRules.imp fun {a b} h => areOrdered_iff.mpr ?_
    by_cases ha : a.1 = .null
    · exact .inl ha
    by_cases hb : b.1 = .null
    · exact .inr (.inl hb)
    exact .inr (.inr (h a.1 b.1 (by rw [ruleViolation, keyPath_of_ne ha])
      (by rw [ruleViolation, keyPath_of_ne hb])))
  · rw [none]
    exact .nil

/-- The rule whose violation is at the path of a key. -/
theorem exists_rejectedRule {entries : List (Datum × Datum)} {v : Violation}
    (hv : v ∈ violations entries) (place : rank v.path = 2) :
    ∃ e ∈ rejectedRules entries, v.path = [.str "rules", e.1] := by
  obtain ⟨before, after, whole, others⟩ := violations_eq entries
  rw [whole, List.mem_append, List.mem_append] at hv
  obtain (hv | hv) | hv := hv
  · exact absurd place (others v (.inl hv)).2
  · obtain each | ⟨-, fault, single⟩ := violationsOfRules_cases entries
    · rw [each] at hv
      obtain ⟨e, he, rfl⟩ := List.mem_map.mp hv
      refine ⟨e, he, ?_⟩
      by_cases null : e.1 = .null
      · rw [ruleViolation, null] at place
        cases place
      · rw [ruleViolation, keyPath_of_ne null]
    · rw [single, List.mem_singleton] at hv
      subst hv
      cases place
  · exact absurd place (others v (.inr hv)).2

/-- The first violation of a file is found if and only if the keys of refused rules have an order;
otherwise two of them are compared, and that fails. -/
theorem firstViolation_outcome (entries : List (Datum × Datum)) :
    ((rejectedRules entries).Pairwise AreOrdered →
      ∃ first, firstViolation (violations entries) = .ok first) ∧
    (¬ (rejectedRules entries).Pairwise AreOrdered → ∃ a ∈ rejectedRules entries,
      ∃ b ∈ rejectedRules entries, ∃ fault, Datum.keyLt a.1 b.1 = .error fault ∧
        firstViolation (violations entries) = .error (.type fault)) := by
  constructor
  · intro ordered
    obtain ⟨sorted, run⟩ := Sorting.exists_sort (violations entries) (pairwise_violations ordered)
    exact ⟨sorted.head?, by rw [firstViolation, run]⟩
  · intro unordered
    cases run : Sorting.sort (fun v w : Violation => pathLt v.path w.path) (violations entries) with
    | ok sorted => exact absurd (pairwise_rejectedRules run) unordered
    | error fault =>
      obtain ⟨v, w, pair, failed⟩ := Sorting.of_sort_eq_error run
      have hv : v ∈ violations entries := pair.subset (by simp)
      have hw : w ∈ violations entries := pair.subset (by simp)
      have ranks : rank v.path = 2 ∧ rank w.path = 2 := by
        by_contra other
        rw [not_and_or] at other
        obtain ⟨r, compared⟩ := exists_pathLt (isFaultPath_of_mem_violations hv)
          (isFaultPath_of_mem_violations hw) other
        rw [failed] at compared
        cases compared
      obtain ⟨a, ha, pathA⟩ := exists_rejectedRule hv ranks.1
      obtain ⟨b, hb, pathB⟩ := exists_rejectedRule hw ranks.2
      refine ⟨a, ha, b, hb, fault, ?_, by rw [firstViolation, run]⟩
      rw [pathA, pathB, pathLt_rules, pathLt] at failed
      split at failed
      · cases failed
      · exact failed

/-! ### Outcomes -/

/-- Whether the reader of plain data fails on a text, other than by refusing it. -/
def ReaderFails (content : String) : Prop := ∃ failure, Yaml.load content = .error (.failed failure)

instance (content : String) : Decidable (ReaderFails content) :=
  match h : Yaml.load content with
  | .error (.failed failure) => .isTrue ⟨failure, h⟩
  | .error (.unreadable _) => .isFalse (by simp [ReaderFails, h])
  | .ok _ => .isFalse (by simp [ReaderFails, h])

/-- The rules of a text whose values are none for a rule. A text that is no mapping has no rules. -/
def rejectedRulesOf (content : String) : List (Datum × Datum) :=
  match Yaml.load content with
  | .ok (.mapping entries) => rejectedRules entries
  | _ => []

/-- Whether the keys of such rules can be put in order. -/
def OrdersFaults (content : String) : Prop := (rejectedRulesOf content).Pairwise AreOrdered

instance (a b : Datum × Datum) : Decidable (AreOrdered a b) :=
  match h : pathLt (keyPath a.1) (keyPath b.1) with
  | .ok r => .isTrue ⟨r, h⟩
  | .error _ => .isFalse (by simp [AreOrdered, h])

instance (content : String) : Decidable (OrdersFaults content) :=
  inferInstanceAs (Decidable ((rejectedRulesOf content).Pairwise AreOrdered))

/-- A text that can be read holds a mapping or nothing, or it is refused. -/
theorem entriesOf_outcome (content origin : String) (reads : ¬ ReaderFails content) :
    (∃ entries, entriesOf origin content = .ok entries ∧
      rejectedRules entries = rejectedRulesOf content) ∨
    (∃ fault, entriesOf origin content = .error (.config fault)) ∧
      rejectedRulesOf content = [] := by
  unfold entriesOf rejectedRulesOf
  match read : Yaml.load content with
  | .error (.failed failure) => exact absurd ⟨failure, read⟩ reads
  | .error (.unreadable _) => exact .inr ⟨⟨_, rfl⟩, rfl⟩
  | .ok .null => exact .inl ⟨[], rfl, rfl⟩
  | .ok (.mapping entries) => exact .inl ⟨entries, rfl, rfl⟩
  | .ok (.bool _) | .ok (.int _) | .ok (.float _) | .ok (.str _) | .ok (.list _)
  | .ok (.date ..) | .ok (.timestamp _) | .ok (.bytes _) => exact .inr ⟨⟨_, rfl⟩, rfl⟩

/-- Two rules that are called by texts, and whose values are none for a rule. -/
def textKeysText : String := "rules:\n  b: []\n  a: []\n"

/-- Two rules whose values are none for a rule, one called by a number and one by a text. -/
def mixedKeysText : String := "rules:\n  1: []\n  a: []\n"

end Lint.RuleFile

end SchemaReview
