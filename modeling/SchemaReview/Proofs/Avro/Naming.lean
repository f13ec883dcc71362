import Mathlib
import SchemaReview.Avro.Reader

/-!
# Splitting and joining names

A name is cut at its last dot, so the short name never has one. Joining a namespace and a short
name gives a name that is cut back into the two.
-/
namespace SchemaReview.Avro

/-- Whether a name has no dot, so that it takes the namespace around it. -/
def IsPlain (name : String) : Prop := '.' ∉ name.toList

/-- Whether a name starts with a dot. -/
def StartsWithDot (name : String) : Prop := name.toList.head? = some '.'

/-- Whether a name ends with a dot. -/
def EndsWithDot (name : String) : Prop := name.toList.getLast? = some '.'

instance (name : String) : Decidable (IsPlain name) := by
  unfold IsPlain
  infer_instance

instance (name : String) : Decidable (StartsWithDot name) := by
  unfold StartsWithDot
  infer_instance

instance (name : String) : Decidable (EndsWithDot name) := by
  unfold EndsWithDot
  infer_instance

theorem splitLastDot_eq_none {s : List Char} : splitLastDot s = none ↔ '.' ∉ s := by
  induction s with
  | nil => simp [splitLastDot]
  | cons c rest ih =>
    rw [splitLastDot, List.mem_cons, not_or]
    cases h : splitLastDot rest with
    | none =>
      have hr : '.' ∉ rest := ih.mp h
      by_cases hc : c = '.'
      · simp [hc]
      · simp [hc, Ne.symm hc, hr]
    | some parts =>
      have hr : '.' ∈ rest := by
        by_contra hn
        rw [ih.mpr hn] at h
        cases h
      simp [hr]

theorem splitLastDot_join {before after : List Char} (h : '.' ∉ after) :
    splitLastDot (before ++ '.' :: after) = some (before, after) := by
  induction before with
  | nil =>
    have hr : splitLastDot after = none := splitLastDot_eq_none.mpr h
    simp [splitLastDot, hr]
  | cons c before ih => simp [splitLastDot, ih]

theorem of_splitLastDot_eq_some {s before after : List Char}
    (h : splitLastDot s = some (before, after)) : s = before ++ '.' :: after ∧ '.' ∉ after := by
  induction s generalizing before with
  | nil => cases h
  | cons c rest ih =>
    rw [splitLastDot] at h
    cases hr : splitLastDot rest with
    | some parts =>
      rw [hr] at h
      cases h
      obtain ⟨rfl, hn⟩ := ih hr
      exact ⟨rfl, hn⟩
    | none =>
      rw [hr] at h
      dsimp only at h
      split at h
      · rename_i hc
        cases h
        exact ⟨by rw [eq_of_beq hc]; rfl, splitLastDot_eq_none.mp hr⟩
      · cases h

section

variable {name short : String} {q own : Option String}

theorem splitName_of_plain (h : IsPlain name) : splitName name q = (name, q) := by
  unfold splitName
  rw [splitLastDot_eq_none.mpr h]

theorem toList_dotted (space name : String) :
    (space ++ "." ++ name).toList = space.toList ++ '.' :: name.toList := by
  simp

theorem not_plain_dotted (space name : String) : ¬ IsPlain (space ++ "." ++ name) := by
  unfold IsPlain
  rw [toList_dotted]
  simp

theorem dotted_ne_self (space : String) (plain : IsPlain name) : space ++ "." ++ name ≠ name := by
  intro same
  rw [← same] at plain
  exact not_plain_dotted space name plain

/-- The two sides of the last dot of a name are determined by the name. -/
theorem dotted_injective {space other last : String} (plain : IsPlain short)
    (plain' : IsPlain last) (h : space ++ "." ++ short = other ++ "." ++ last) :
    space = other ∧ short = last := by
  have first : splitLastDot (space.toList ++ '.' :: short.toList) = _ := splitLastDot_join plain
  have second : splitLastDot (other.toList ++ '.' :: last.toList) = _ := splitLastDot_join plain'
  rw [← toList_dotted, h, toList_dotted, second] at first
  obtain ⟨before, after⟩ := Prod.mk.inj (Option.some.inj first)
  exact ⟨(String.toList_inj.mp before).symm, (String.toList_inj.mp after).symm⟩

theorem splitName_dotted {space : String} (hs : space ≠ "") (h : IsPlain name) :
    splitName (space ++ "." ++ name) q = (name, some space) := by
  have hl : space.toList ≠ [] := mt String.toList_eq_nil_iff.mp hs
  unfold splitName
  rw [toList_dotted, splitLastDot_join h]
  simp [hl]

/-- What cutting a name gives: the name itself, or the two sides of its last dot. -/
theorem splitName_cases (name : String) (q : Option String) :
    (IsPlain name ∧ splitName name q = (name, q)) ∨
      ∃ space short, name = space ++ "." ++ short ∧ IsPlain short ∧
        splitName name q = (short, if space = "" then none else some space) := by
  cases h : splitLastDot name.toList with
  | none => exact .inl ⟨splitLastDot_eq_none.mp h, splitName_of_plain (splitLastDot_eq_none.mp h)⟩
  | some parts =>
    obtain ⟨before, after⟩ := parts
    obtain ⟨hs, hn⟩ := of_splitLastDot_eq_some h
    refine .inr ⟨String.ofList before, String.ofList after, ?_, ?_, ?_⟩
    · rw [← String.toList_inj, toList_dotted, String.toList_ofList, String.toList_ofList]
      exact hs
    · unfold IsPlain
      rw [String.toList_ofList]
      exact hn
    · unfold splitName
      rw [h]
      cases before <;> simp

/-- A short name has no dot. -/
theorem isPlain_of_splitName (h : splitName name q = (short, own)) : IsPlain short := by
  obtain ⟨hp, hs⟩ | ⟨space, last, rfl, hp, hs⟩ := splitName_cases name q
  · rw [h] at hs
    cases hs
    exact hp
  · rw [h] at hs
    cases hs
    exact hp

theorem splitName_space_ne_empty (hq : q ≠ some "") (h : splitName name q = (short, own)) :
    own ≠ some "" := by
  obtain ⟨-, hs⟩ | ⟨space, last, -, -, hs⟩ := splitName_cases name q
  · rw [h] at hs
    cases hs
    exact hq
  · rw [h] at hs
    cases hs
    split <;> simp_all

/-- A name that is not empty is cut to an empty one exactly if it ends with a dot. -/
theorem splitName_short_eq_empty (hn : name ≠ "") (h : splitName name q = (short, own)) :
    short = "" ↔ EndsWithDot name := by
  obtain ⟨plain, hs⟩ | ⟨space, last, rfl, plain, hs⟩ := splitName_cases name q
  · rw [h] at hs
    cases hs
    exact iff_of_false hn fun dot => plain (List.mem_of_getLast? dot)
  · rw [h] at hs
    cases hs
    constructor
    · rintro rfl
      simp [EndsWithDot]
    · intro dot
      by_contra nonempty
      have chars : short.toList ≠ [] := mt String.toList_eq_nil_iff.mp nonempty
      unfold EndsWithDot at dot
      rw [toList_dotted, List.getLast?_append_of_ne_nil _ (List.cons_ne_nil _ _),
        List.getLast?_cons_of_ne_nil chars] at dot
      exact plain (List.mem_of_getLast? dot)

end

end SchemaReview.Avro
