import Mathlib.Data.List.Induction
import SchemaReview.Datum

/-!
# Mappings of plain data

What is found in a mapping after entries were set in it, and when setting them leaves it as it is.
Of two values for one key the later one counts, keys that are present keep their places, and entries
that were set change nothing when they are set again.
-/
namespace SchemaReview

section

variable {α β : Type} [BEq α] [LawfulBEq α] {entries : List (α × β)} {key : α} {value : β}

theorem mem_of_lookup (h : entries.lookup key = some value) : (key, value) ∈ entries := by
  obtain ⟨before, after, rfl, -⟩ := List.lookup_eq_some_iff.mp h
  exact List.mem_append_right _ List.mem_cons_self

/-- Where no key is listed twice, each entry is found under its key. -/
theorem lookup_eq_some_iff_mem (once : (entries.map Prod.fst).Nodup) :
    entries.lookup key = some value ↔ (key, value) ∈ entries := by
  refine ⟨mem_of_lookup, fun among => ?_⟩
  obtain ⟨before, after, rfl⟩ := List.append_of_mem among
  rw [List.lookup_eq_some_iff]
  refine ⟨before, after, rfl, fun earlier he => ?_⟩
  rw [List.map_append, List.map_cons, List.nodup_append] at once
  have other : earlier.1 ≠ key :=
    once.2.2 earlier.1 (List.mem_map_of_mem he) key List.mem_cons_self
  simpa using other.symm

end

namespace Datum

variable {entries others more : List (Datum × Datum)} {e : Datum × Datum} {k l v w : Datum}

/-- An entry that counts as null only if it is absent. -/
theorem eq_some_of_getD_null {found : Option Datum} (h : found.getD .null = v)
    (notNull : v ≠ .null) : found = some v := by
  cases found with
  | none => exact absurd h.symm notNull
  | some _ => exact congrArg some h

/-- Whether a mapping has a key. -/
def hasKey (entries : List (Datum × Datum)) (key : Datum) : Bool :=
  entries.any fun e => e.1.sameKey key

theorem hasKey_cons :
    hasKey (e :: entries) k = (e.1.sameKey k || hasKey entries k) := rfl

theorem hasKey_setEntry (h : hasKey entries k = true) : hasKey (setEntry entries l v) k = true := by
  induction entries with
  | nil => cases h
  | cons e rest ih =>
    rw [setEntry]
    by_cases here : e.1.sameKey l = true
    · rwa [if_pos here]
    · rw [hasKey_cons, Bool.or_eq_true] at h
      rw [if_neg here, hasKey_cons, Bool.or_eq_true]
      exact h.imp_right ih

theorem hasKey_setEntry_self (self : k.sameKey k = true) :
    hasKey (setEntry entries k v) k = true := by
  induction entries with
  | nil => simpa [setEntry, hasKey] using self
  | cons e rest ih =>
    rw [setEntry]
    by_cases here : e.1.sameKey k = true
    · simp [hasKey, here]
    · simp [if_neg here, hasKey_cons, ih]

theorem setEntry_append (h : hasKey entries k = true) :
    setEntry (entries ++ more) k v = setEntry entries k v ++ more := by
  induction entries with
  | nil => cases h
  | cons e rest ih =>
    by_cases here : e.1.sameKey k = true
    · simp [setEntry, here]
    · have there : hasKey rest k = true := by simpa [hasKey_cons, here] using h
      simp [setEntry, here, ih there]

theorem setEntry_eq_append (h : hasKey entries k = false) :
    setEntry entries k v = entries ++ [(k, v)] := by
  induction entries with
  | nil => rfl
  | cons e rest ih =>
    rw [hasKey_cons, Bool.or_eq_false_iff] at h
    simp [setEntry, h.1, ih h.2]

/-- Of two values for one key, the later one stays. -/
theorem setEntry_setEntry (self : k.sameKey k = true) :
    setEntry (setEntry entries k v) k w = setEntry entries k w := by
  induction entries with
  | nil => simp [setEntry, self]
  | cons e rest ih =>
    by_cases here : e.1.sameKey k = true
    · simp [setEntry, here]
    · simp [setEntry, here, ih]

/-- Setting two keys that are present: either both have one entry, or the order does not count. -/
theorem setEntry_cases (h : hasKey entries k = true) :
    setEntry (setEntry entries k v) l w = setEntry entries l w ∨
      setEntry (setEntry entries k v) l w = setEntry (setEntry entries l w) k v := by
  induction entries with
  | nil => cases h
  | cons e rest ih =>
    by_cases first : e.1.sameKey k = true <;> by_cases second : e.1.sameKey l = true
    · exact .inl (by simp [setEntry, first, second])
    · exact .inr (by simp [setEntry, first, second])
    · exact .inr (by simp [setEntry, first, second])
    · have there : hasKey rest k = true := by simpa [hasKey_cons, first] using h
      simpa [setEntry, first, second] using ih there

theorem updateEntries_cons :
    updateEntries entries (e :: others) = updateEntries (setEntry entries e.1 e.2) others := rfl

theorem updateEntries_concat :
    updateEntries entries (others ++ [e]) = setEntry (updateEntries entries others) e.1 e.2 := by
  simp [updateEntries]

theorem hasKey_updateEntries (h : hasKey entries k = true) :
    hasKey (updateEntries entries others) k = true := by
  induction others generalizing entries with
  | nil => exact h
  | cons e rest ih => exact ih (hasKey_setEntry h)

/-- All keys that are set are there afterwards. -/
theorem hasKey_updateEntries_of_mem (he : e ∈ others) (self : e.1.sameKey e.1 = true) :
    hasKey (updateEntries entries others) e.1 = true := by
  obtain ⟨before, after, rfl⟩ := List.append_of_mem he
  have split : updateEntries entries (before ++ e :: after) =
      updateEntries (setEntry (updateEntries entries before) e.1 e.2) after := by
    simp [updateEntries]
  rw [split]
  exact hasKey_updateEntries (hasKey_setEntry_self self)

theorem updateEntries_append (present : ∀ e ∈ others, hasKey entries e.1 = true) :
    updateEntries (entries ++ more) others = updateEntries entries others ++ more := by
  induction others generalizing entries with
  | nil => rfl
  | cons e rest ih =>
    obtain ⟨here, behind⟩ := List.forall_mem_cons.mp present
    rw [updateEntries_cons, setEntry_append here]
    exact ih fun f hf => hasKey_setEntry (behind f hf)

/-- A value that is set anew leaves nothing behind. -/
theorem updateEntries_setEntry (self : k.sameKey k = true) (present : hasKey entries k = true)
    (again : ∃ e ∈ others, e.1 = k) :
    updateEntries (setEntry entries k v) others = updateEntries entries others := by
  induction others generalizing entries with
  | nil =>
    obtain ⟨e, he, -⟩ := again
    cases he
  | cons e rest ih =>
    rw [updateEntries_cons, updateEntries_cons]
    obtain ⟨f, hf, rfl⟩ := again
    obtain rfl | later := List.mem_cons.mp hf
    · rw [setEntry_setEntry self]
    · obtain overwritten | swapped := setEntry_cases (v := v) (l := e.1) (w := e.2) present
      · rw [overwritten]
      · rw [swapped]
        exact ih (hasKey_setEntry present) ⟨f, later, rfl⟩

/-- Entries that are set a second time change nothing. -/
theorem updateEntries_updateEntries (keys : ∀ e ∈ others, e.1.sameKey e.1 = true) :
    updateEntries (updateEntries entries others) others = updateEntries entries others := by
  induction others using List.reverseRecOn with
  | nil => rfl
  | append_singleton others e ih =>
    obtain ⟨before, last⟩ := List.forall_mem_append.mp keys
    have self := last e (List.mem_singleton_self e)
    have known := ih before
    have split : updateEntries entries (others ++ [e]) =
        setEntry (updateEntries entries others) e.1 e.2 := updateEntries_concat
    rw [split]
    generalize reached : updateEntries entries others = y at known
    -- The first value of a key that is there is overwritten; a new key stands behind all others.
    by_cases present : hasKey y e.1 = true
    · have again : ∃ f ∈ others ++ [e], f.1 = e.1 := ⟨e, by simp, rfl⟩
      rw [updateEntries_setEntry self present again, updateEntries_concat, known]
    · rw [Bool.not_eq_true] at present
      have all : ∀ f ∈ others, hasKey y f.1 = true := fun f hf =>
        reached ▸ hasKey_updateEntries_of_mem hf (before f hf)
      calc updateEntries (setEntry y e.1 e.2) (others ++ [e])
          = setEntry (updateEntries (y ++ [e]) others) e.1 e.2 := by
            rw [updateEntries_concat, setEntry_eq_append present]
        _ = setEntry (setEntry y e.1 e.2) e.1 e.2 := by
            rw [updateEntries_append all, known, setEntry_eq_append present]
        _ = setEntry y e.1 e.2 := setEntry_setEntry self

/-! ### Entries under a text -/

variable {key : String}

/-- Keys that are the same are the same text or no texts. -/
theorem sameKey_str_congr (h : k.sameKey l = true) (key : String) :
    k.sameKey (.str key) = l.sameKey (.str key) := by
  cases k <;> cases l <;> simp_all [sameKey, number?]

theorem eq_str_of_sameKey (h : k.sameKey (.str key) = true) : k = .str key := by
  cases k <;> simp_all [sameKey, number?]

theorem textEntry?_cons :
    textEntry? (e :: entries) key =
      if e.1.sameKey (.str key) then some e.2 else textEntry? entries key := by
  unfold textEntry? entry?
  rw [List.find?_cons]
  cases e.1.sameKey (.str key) <;> rfl

/-- What is found under a text after an entry was set. -/
theorem textEntry?_setEntry :
    textEntry? (setEntry entries k v) key =
      if k.sameKey (.str key) then some v else textEntry? entries key := by
  induction entries with
  | nil => exact textEntry?_cons
  | cons e rest ih =>
    rw [setEntry]
    by_cases here : e.1.sameKey k = true
    · rw [if_pos here, textEntry?_cons, textEntry?_cons]
      dsimp only
      rw [sameKey_str_congr here]
      split <;> rfl
    · rw [if_neg here, textEntry?_cons, textEntry?_cons, ih]
      by_cases first : e.1.sameKey (.str key) = true
      · have second : ¬ k.sameKey (.str key) = true := by
          intro second
          rw [eq_str_of_sameKey first, eq_str_of_sameKey second] at here
          exact here (by simp [sameKey])
        rw [if_pos first, if_neg second, if_pos first]
      · rw [if_neg first, if_neg first]

/-- The last of the entries that are set under a text counts. -/
theorem textEntry?_updateEntries :
    textEntry? (updateEntries entries others) key =
      (Datum.textEntry? others.reverse key).or (Datum.textEntry? entries key) := by
  induction others using List.reverseRecOn with
  | nil => rfl
  | append_singleton others e ih =>
    rw [updateEntries_concat, textEntry?_setEntry, ih, List.reverse_concat, textEntry?_cons]
    cases e.1.sameKey (.str key) <;> rfl

end Datum
end SchemaReview
