import Mathlib
import SchemaReview.Text.Blank

/-!
# Words and the blanks between them

The words of a text do not depend on which blanks stand between them, nor on how many. A text whose
words are one space apart is what its words are joined to.
-/
namespace SchemaReview.Text

variable {c : Char} {s t gap : List Char}

/-- Whether a word ends where a text starts. -/
def EndsWord (s : List Char) : Prop := ∀ c ∈ s.head?, isBlank c = true

theorem endsWord_nil : EndsWord [] := by simp [EndsWord]

theorem endsWord_cons_iff : EndsWord (c :: s) ↔ isBlank c = true := by simp [EndsWord]

theorem words_nil : words [] = [] := rfl

theorem words_cons (c : Char) (s : List Char) : words (c :: s) =
    if isBlank c then words s
    else match s with
      | [] => [[c]]
      | d :: _ =>
        if isBlank d then [c] :: words s
        else match words s with
          | [] => [[c]]
          | w :: ws => (c :: w) :: ws := words.eq_def (c :: s)

theorem words_cons_of_isBlank (h : isBlank c = true) (s : List Char) :
    words (c :: s) = words s := by
  rw [words_cons, if_pos h]

theorem words_blanks_append (h : ∀ c ∈ gap, isBlank c = true) (s : List Char) :
    words (gap ++ s) = words s := by
  induction gap with
  | nil => rfl
  | cons c gap ih =>
    rw [List.cons_append, words_cons_of_isBlank (h c List.mem_cons_self)]
    exact ih fun d hd => h d (List.mem_cons_of_mem c hd)

theorem words_cons_of_endsWord (h : isBlank c = false) (ends : EndsWord s) :
    words (c :: s) = [c] :: words s := by
  rw [words_cons, if_neg (by simp [h])]
  cases s with
  | nil => rfl
  | cons d s => simp only [if_pos (endsWord_cons_iff.mp ends)]

/-- A word goes on with the first word of what follows. -/
theorem words_cons_of_not_endsWord (h : isBlank c = false) (goesOn : ¬ EndsWord s) :
    words (c :: s) = (c :: (words s).headD []) :: (words s).tail := by
  rw [words_cons, if_neg (by simp [h])]
  cases s with
  | nil => exact absurd endsWord_nil goesOn
  | cons d s =>
    simp only [if_neg fun hd => goesOn (endsWord_cons_iff.mpr hd)]
    cases words (d :: s) <;> rfl

theorem words_cons_congr (c : Char) (same : words s = words t)
    (ends : EndsWord s ↔ EndsWord t) : words (c :: s) = words (c :: t) := by
  cases h : isBlank c with
  | true => rw [words_cons_of_isBlank h, words_cons_of_isBlank h, same]
  | false =>
    by_cases hs : EndsWord s
    · rw [words_cons_of_endsWord h hs, words_cons_of_endsWord h (ends.mp hs), same]
    · have ht : ¬ EndsWord t := fun ht => hs (ends.mpr ht)
      rw [words_cons_of_not_endsWord h hs, words_cons_of_not_endsWord h ht, same]

theorem words_word_append {w : List Char} (hw : w ≠ []) (h : ∀ c ∈ w, isBlank c = false)
    (ends : EndsWord s) : words (w ++ s) = w :: words s := by
  induction w with
  | nil => exact absurd rfl hw
  | cons c w ih =>
    have hc := h c List.mem_cons_self
    cases w with
    | nil => exact words_cons_of_endsWord hc ends
    | cons d w =>
      have goesOn : ¬ EndsWord (d :: w ++ s) := by
        rw [List.cons_append, endsWord_cons_iff, h d (by simp)]
        exact Bool.false_ne_true
      have tail := ih (List.cons_ne_nil d w) fun e he => h e (List.mem_cons_of_mem c he)
      rw [List.cons_append, words_cons_of_not_endsWord hc goesOn, tail]
      rfl

theorem words_eq_nil_iff : words s = [] ↔ ∀ c ∈ s, isBlank c = true := by
  induction s with
  | nil => simp [words_nil]
  | cons c s ih =>
    cases h : isBlank c with
    | true => rw [words_cons_of_isBlank h, ih, List.forall_mem_cons, h, eq_self, true_and]
    | false =>
      have some : words (c :: s) ≠ [] := by
        by_cases ends : EndsWord s
        · rw [words_cons_of_endsWord h ends]
          exact List.cons_ne_nil _ _
        · rw [words_cons_of_not_endsWord h ends]
          exact List.cons_ne_nil _ _
      simp [some, h]

theorem words_append_blanks (h : ∀ c ∈ gap, isBlank c = true) (s : List Char) :
    words (s ++ gap) = words s := by
  have ends : EndsWord gap := fun c hc => h c (List.mem_of_mem_head? hc)
  induction s with
  | nil => rw [List.nil_append, words_eq_nil_iff.mpr h, words_nil]
  | cons c s ih =>
    refine words_cons_congr c ih ?_
    cases s with
    | nil => exact iff_of_true ends endsWord_nil
    | cons d s => exact endsWord_cons_iff.trans endsWord_cons_iff.symm

/-! ### Normalized blanks -/

theorem normalizeBlanks_cons_of_isBlank (h : isBlank c = true) (s : List Char) :
    normalizeBlanks (c :: s) = normalizeBlanks s := by
  rw [normalizeBlanks, words_cons_of_isBlank h, normalizeBlanks]

theorem normalizeBlanks_cons_of_not_endsWord (h : isBlank c = false) (goesOn : ¬ EndsWord s) :
    normalizeBlanks (c :: s) = c :: normalizeBlanks s := by
  rw [normalizeBlanks, words_cons_of_not_endsWord h goesOn, normalizeBlanks]
  cases words s with
  | nil => rfl
  | cons w ws => cases ws <;> simp [List.intercalate_cons_cons]

theorem normalizeBlanks_cons_of_endsWord (h : isBlank c = false) (ends : EndsWord s) :
    normalizeBlanks (c :: s) =
      if words s = [] then [c] else c :: ' ' :: normalizeBlanks s := by
  rw [normalizeBlanks, words_cons_of_endsWord h ends, normalizeBlanks]
  cases words s with
  | nil => rfl
  | cons w ws => simp [List.intercalate_cons_cons]

/-- A normalized text starts with the character that the text starts with. -/
theorem exists_normalizeBlanks_cons {c : Char} (h : isBlank c = false) (s : List Char) :
    ∃ rest, normalizeBlanks (c :: s) = c :: rest ∧ (rest = [] → ∀ d ∈ s, isBlank d = true) := by
  by_cases ends : EndsWord s
  · rw [normalizeBlanks_cons_of_endsWord h ends]
    split
    · exact ⟨[], rfl, fun _ => words_eq_nil_iff.mp ‹_›⟩
    · exact ⟨_, rfl, by simp⟩
  · refine ⟨normalizeBlanks s, normalizeBlanks_cons_of_not_endsWord h ends, ?_⟩
    intro none
    cases s with
    | nil => exact absurd endsWord_nil ends
    | cons d s =>
      have hd : isBlank d = false := by simpa [endsWord_cons_iff] using ends
      obtain ⟨rest, first, -⟩ := exists_normalizeBlanks_cons hd s
      rw [first] at none
      exact absurd none (List.cons_ne_nil d rest)

/-- Normalizing the text in front of a word leaves a space, or none, between the two. -/
theorem exists_normalizeBlanks_append (s : List Char) :
    ∃ gap, (gap = [] ∨ gap = [' ']) ∧ ∀ c t, isBlank c = false →
      normalizeBlanks (s ++ c :: t) = normalizeBlanks s ++ gap ++ normalizeBlanks (c :: t) := by
  induction s with
  | nil => exact ⟨[], .inl rfl, fun _ _ _ => rfl⟩
  | cons d s ih =>
    obtain ⟨gap, small, same⟩ := ih
    cases hd : isBlank d with
    | true =>
      refine ⟨gap, small, fun c t hc => ?_⟩
      rw [List.cons_append, normalizeBlanks_cons_of_isBlank hd, normalizeBlanks_cons_of_isBlank hd]
      exact same c t hc
    | false =>
      cases s with
      | nil =>
        refine ⟨[], .inl rfl, fun c t hc => ?_⟩
        have goesOn : ¬ EndsWord (c :: t) := by simp [endsWord_cons_iff, hc]
        rw [normalizeBlanks_cons_of_endsWord hd endsWord_nil]
        exact normalizeBlanks_cons_of_not_endsWord hd goesOn
      | cons e s =>
        have first (t : List Char) : EndsWord (e :: s ++ t) ↔ EndsWord (e :: s) :=
          endsWord_cons_iff.trans endsWord_cons_iff.symm
        by_cases ends : EndsWord (e :: s)
        · have some (c : Char) (t : List Char) (hc : isBlank c = false) :
              words (e :: s ++ c :: t) ≠ [] := by
            intro none
            have blank := words_eq_nil_iff.mp none c (by simp)
            rw [hc] at blank
            exact Bool.false_ne_true blank
          rw [normalizeBlanks_cons_of_endsWord hd ends]
          by_cases none : words (e :: s) = []
          · refine ⟨[' '], .inr rfl, fun c t hc => ?_⟩
            have skipped : normalizeBlanks (e :: s ++ c :: t) = normalizeBlanks (c :: t) := by
              rw [normalizeBlanks, words_blanks_append (words_eq_nil_iff.mp none), normalizeBlanks]
            rw [List.cons_append, normalizeBlanks_cons_of_endsWord hd ((first _).mpr ends),
              if_neg (some c t hc), if_pos none, skipped]
            rfl
          · refine ⟨gap, small, fun c t hc => ?_⟩
            rw [List.cons_append, normalizeBlanks_cons_of_endsWord hd ((first _).mpr ends),
              if_neg (some c t hc), if_neg none, same c t hc]
            rfl
        · refine ⟨gap, small, fun c t hc => ?_⟩
          rw [List.cons_append, normalizeBlanks_cons_of_not_endsWord hd (mt (first _).mp ends),
            normalizeBlanks_cons_of_not_endsWord hd ends, same c t hc]
          rfl

/-- What stands in front of a character and behind its next use is normalized in one way whatever
stands between the two. -/
theorem exists_normalizeBlanks_between {c : Char} (h : isBlank c = false) (s t : List Char) :
    ∃ gap rest, (gap = [] ∨ gap = [' ']) ∧ (rest = [] → ∀ d ∈ t, isBlank d = true) ∧
      ∀ m, ∃ m', normalizeBlanks (s ++ c :: (m ++ c :: t)) =
        normalizeBlanks s ++ gap ++ c :: (m' ++ c :: rest) := by
  obtain ⟨gap, small, before⟩ := exists_normalizeBlanks_append s
  obtain ⟨rest, behind, blank⟩ := exists_normalizeBlanks_cons h t
  refine ⟨gap, rest, small, blank, fun m => ?_⟩
  obtain ⟨gap', -, between⟩ := exists_normalizeBlanks_append (c :: m)
  obtain ⟨m', first, -⟩ := exists_normalizeBlanks_cons h m
  have inner : normalizeBlanks (c :: (m ++ c :: t)) = c :: (m' ++ gap' ++ c :: rest) := by
    rw [← List.cons_append, between c t h, first, behind]
    rfl
  exact ⟨m' ++ gap', by rw [before c _ h, inner]⟩

theorem forall_mem_words (s : List Char) :
    ∀ w ∈ words s, w ≠ [] ∧ ∀ c ∈ w, isBlank c = false := by
  induction s with
  | nil => simp [words_nil]
  | cons c s ih =>
    cases h : isBlank c with
    | true =>
      rw [words_cons_of_isBlank h]
      exact ih
    | false =>
      by_cases ends : EndsWord s
      · rw [words_cons_of_endsWord h ends]
        exact List.forall_mem_cons.mpr ⟨⟨List.cons_ne_nil c [], by simpa using h⟩, ih⟩
      · rw [words_cons_of_not_endsWord h ends]
        have plain : ∀ d ∈ (words s).headD [], isBlank d = false := by
          cases found : words s with
          | nil => simp
          | cons w ws => exact (ih w (by simp [found])).2
        refine List.forall_mem_cons.mpr ⟨⟨List.cons_ne_nil c _, ?_⟩, ?_⟩
        · exact List.forall_mem_cons.mpr ⟨h, plain⟩
        · exact fun w hw => ih w (List.mem_of_mem_tail hw)

/-- Whether the words of a text are one space apart and no blank stands at its ends. -/
def IsSpaced (s : List Char) : Prop :=
  ∃ ws : List (List Char), (∀ w ∈ ws, w ≠ [] ∧ ∀ c ∈ w, isBlank c = false) ∧
    s = [' '].intercalate ws

theorem words_intercalate {ws : List (List Char)}
    (h : ∀ w ∈ ws, w ≠ [] ∧ ∀ c ∈ w, isBlank c = false) : words ([' '].intercalate ws) = ws := by
  induction ws with
  | nil => rfl
  | cons w ws ih =>
    obtain ⟨hw, plain⟩ := h w List.mem_cons_self
    have rest := ih fun v hv => h v (List.mem_cons_of_mem w hv)
    cases ws with
    | nil => simpa [words_nil] using words_word_append hw plain endsWord_nil
    | cons v ws =>
      have space : isBlank ' ' = true := by decide
      rw [List.intercalate_cons_cons, List.append_assoc, List.singleton_append,
        words_word_append hw plain (endsWord_cons_iff.mpr space), words_cons_of_isBlank space, rest]

theorem words_normalizeBlanks (s : List Char) : words (normalizeBlanks s) = words s :=
  words_intercalate (forall_mem_words s)

theorem IsSpaced.normalizeBlanks_eq (h : IsSpaced s) : normalizeBlanks s = s := by
  obtain ⟨ws, hws, rfl⟩ := h
  rw [normalizeBlanks, words_intercalate hws]

/-- Whether one text is another one with any blanks, at least one, for each space and with any
blanks behind it. -/
inductive IsRespaced : List Char → List Char → Prop
  | nil {gap : List Char} (blank : ∀ c ∈ gap, isBlank c = true) : IsRespaced [] gap
  | space {gap s t : List Char} (blank : ∀ c ∈ gap, isBlank c = true) (some : gap ≠ [])
      (rest : IsRespaced s t) : IsRespaced (' ' :: s) (gap ++ t)
  | char {c : Char} {s t : List Char} (rest : IsRespaced s t) : IsRespaced (c :: s) (c :: t)

theorem IsRespaced.refl (s : List Char) : IsRespaced s s := by
  induction s with
  | nil => exact .nil (by simp)
  | cons c s ih => exact .char ih

theorem IsRespaced.words_eq (h : IsRespaced s t) :
    words t = words s ∧ (EndsWord t ↔ EndsWord s) := by
  induction h with
  | @nil gap blank =>
    refine ⟨by simpa [words_nil] using words_blanks_append blank [], iff_of_true ?_ endsWord_nil⟩
    cases gap with
    | nil => exact endsWord_nil
    | cons c gap => exact endsWord_cons_iff.mpr (blank c List.mem_cons_self)
  | @space gap s t blank some rest ih =>
    have space : isBlank ' ' = true := by decide
    refine ⟨?_, iff_of_true ?_ (endsWord_cons_iff.mpr space)⟩
    · rw [words_blanks_append blank, words_cons_of_isBlank space, ih.1]
    · obtain ⟨c, gap, rfl⟩ := List.exists_cons_of_ne_nil some
      exact endsWord_cons_iff.mpr (blank c List.mem_cons_self)
  | @char c s t rest ih =>
    exact ⟨words_cons_congr c ih.1 ih.2, by rw [endsWord_cons_iff, endsWord_cons_iff]⟩

/-- Whether one text is another one with any blanks around and between its words. -/
def IsSpread (s t : List Char) : Prop :=
  ∃ gap u, (∀ c ∈ gap, isBlank c = true) ∧ IsRespaced s u ∧ t = gap ++ u

theorem IsSpread.refl (s : List Char) : IsSpread s s :=
  ⟨[], s, by simp, .refl s, rfl⟩

/-- Normalizing takes the blanks out again. -/
theorem IsSpread.normalizeBlanks_eq (h : IsSpread s t) (spaced : IsSpaced s) :
    normalizeBlanks t = s := by
  obtain ⟨gap, u, blank, respaced, rfl⟩ := h
  rw [normalizeBlanks, words_blanks_append blank, respaced.words_eq.1]
  exact spaced.normalizeBlanks_eq

theorem IsSpread.forall_mem {p : Char → Prop} (h : IsSpread s t)
    (blanks : ∀ c, isBlank c = true → p c) (chars : ∀ c ∈ s, p c) : ∀ c ∈ t, p c := by
  obtain ⟨gap, u, blank, respaced, rfl⟩ := h
  have later : ∀ c ∈ u, p c := by
    induction respaced with
    | nil blank => exact fun c hc => blanks c (blank c hc)
    | @space gap s t blank some rest ih =>
      have tail := ih fun c hc => chars c (List.mem_cons_of_mem _ hc)
      intro c hc
      rcases List.mem_append.mp hc with h | h
      · exact blanks c (blank c h)
      · exact tail c h
    | @char c s t rest ih =>
      have tail := ih fun d hd => chars d (List.mem_cons_of_mem c hd)
      exact List.forall_mem_cons.mpr ⟨chars c List.mem_cons_self, tail⟩
  intro c hc
  rcases List.mem_append.mp hc with h | h
  · exact blanks c (blank c h)
  · exact later c h

end SchemaReview.Text
