import Mathlib
import SchemaReview.Proofs.Text.Words
import SchemaReview.Protobuf.Reader

/-!
# Lines with string literals

What a reader of statements and headers finds in a line does not depend on what stands behind the
first quote of it, but for the last character. The readers take words, numbers and signs from the
front of a line, none of which has a quote in it, and then ask whether the line is at its end or
ends in a bracket. The one form with a quote is that of the syntax level.
-/
namespace SchemaReview.Protobuf

open Text (isBlank)

variable {α β γ δ : Type} {q : Char} {s t h m n : List Char} {test : Char → Bool}

/-- Whether two texts have the same front up to a quote, and the same end. -/
inductive SameToQuote : List Char → List Char → Prop
  | mk (front : List Char) {q : Char} {m n : List Char} (opens : isQuote q = true)
      (last : (q :: m).getLast? = (q :: n).getLast?) :
      SameToQuote (front ++ q :: m) (front ++ q :: n)

theorem isQuote_cases (opens : isQuote q = true) : q = '"' ∨ q = '\'' := by
  simpa [isQuote] using opens

/-- Whether a test fails for quotes. -/
def NoQuotePasses (test : Char → Bool) : Prop := ∀ q, isQuote q = true → test q = false

theorem noQuotePasses_of (double : test '"' = false) (single : test '\'' = false) :
    NoQuotePasses test := by
  intro q opens
  rcases isQuote_cases opens with rfl | rfl
  · exact double
  · exact single

theorem isBlank_noQuotePasses : NoQuotePasses isBlank := noQuotePasses_of rfl rfl

theorem isPathChar_noQuotePasses : NoQuotePasses isPathChar :=
  noQuotePasses_of (by decide +kernel) (by decide +kernel)

theorem isWord_noQuotePasses : NoQuotePasses Text.isWord :=
  noQuotePasses_of (by decide +kernel) (by decide +kernel)

theorem isDecimalDigit_noQuotePasses : NoQuotePasses Text.isDecimalDigit :=
  noQuotePasses_of (by decide +kernel) (by decide +kernel)

theorem isHexDigit_noQuotePasses : NoQuotePasses isHexDigit :=
  noQuotePasses_of (by decide +kernel) (by decide +kernel)

/-! ### Readers that stop before a quote -/

theorem takeWhile_append_quote (hq : test q = false) (s m : List Char) :
    (s ++ q :: m).takeWhile test = s.takeWhile test := by
  induction s with
  | nil => simp [hq]
  | cons c s ih => simp [List.takeWhile_cons, ih]

theorem dropWhile_append_quote (hq : test q = false) (s m : List Char) :
    (s ++ q :: m).dropWhile test = s.dropWhile test ++ q :: m := by
  induction s with
  | nil => simp [hq]
  | cons c s ih =>
    rw [List.cons_append, List.dropWhile_cons, List.dropWhile_cons, ih]
    split <;> rfl

theorem SameToQuote.dropWhile (h : SameToQuote s t) (passes : NoQuotePasses test) :
    SameToQuote (s.dropWhile test) (t.dropWhile test) := by
  obtain ⟨front, opens, last⟩ := h
  rw [dropWhile_append_quote (passes _ opens), dropWhile_append_quote (passes _ opens)]
  exact .mk _ opens last

theorem SameToQuote.skipBlanks (h : SameToQuote s t) :
    SameToQuote (skipBlanks s) (skipBlanks t) := h.dropWhile isBlank_noQuotePasses

theorem SameToQuote.cons (c : Char) (h : SameToQuote s t) : SameToQuote (c :: s) (c :: t) := by
  obtain ⟨front, opens, last⟩ := h
  exact .mk (c :: front) opens last

/-- Two texts that are the same up to a quote start with it or with another character. -/
theorem SameToQuote.cases (h : SameToQuote s t) :
    (∃ q m n, isQuote q = true ∧ s = q :: m ∧ t = q :: n ∧
      (q :: m).getLast? = (q :: n).getLast?) ∨
    ∃ c u v, s = c :: u ∧ t = c :: v ∧ SameToQuote u v := by
  obtain ⟨front, opens, last⟩ := h
  cases front with
  | nil => exact .inl ⟨_, _, _, opens, rfl, rfl, last⟩
  | cons c front => exact .inr ⟨c, _, _, rfl, rfl, .mk front opens last⟩

theorem SameToQuote.ne_nil (h : SameToQuote s t) : s ≠ [] ∧ t ≠ [] := by
  obtain ⟨front, opens, last⟩ := h
  simp

theorem SameToQuote.getLast?_eq (h : SameToQuote s t) : s.getLast? = t.getLast? := by
  obtain ⟨front, opens, last⟩ := h
  rw [List.getLast?_append_of_ne_nil _ (by simp), List.getLast?_append_of_ne_nil _ (by simp), last]

/-- A word without quotes stands in front of both texts or of neither. -/
theorem SameToQuote.isPrefixOf {word : List Char} (h : SameToQuote s t)
    (plain : word.all fun c => !isQuote c) : word.isPrefixOf s = word.isPrefixOf t ∧
      (word.isPrefixOf s = true → SameToQuote (s.drop word.length) (t.drop word.length)) := by
  induction word generalizing s t with
  | nil => exact ⟨by simp, fun _ => h⟩
  | cons d word ih =>
    rw [List.all_cons, Bool.and_eq_true, Bool.not_eq_true'] at plain
    rcases h.cases with ⟨q, m, n, opens, rfl, rfl, -⟩ | ⟨c, u, v, rfl, rfl, rest⟩
    · have differ : (d == q) = false := beq_false_of_ne (ne_of_isQuote opens plain.1).symm
      simp [List.isPrefixOf, differ]
    · obtain ⟨same, left⟩ := ih rest plain.2
      simp only [List.isPrefixOf, same, List.length_cons, List.drop_succ_cons, Bool.and_eq_true,
        true_and]
      rintro ⟨-, found⟩
      exact left (same.trans found)

/-! ### Readings of both texts -/

theorem rel_bind {R : α → β → Prop} {S : γ → δ → Prop} {x : Option α} {y : Option β}
    {f : α → Option γ} {g : β → Option δ} (first : Option.Rel R x y)
    (next : ∀ a b, R a b → Option.Rel S (f a) (g b)) : Option.Rel S (x >>= f) (y >>= g) := by
  cases first with
  | none => exact .none
  | some results => exact next _ _ results

theorem rel_or {R : α → β → Prop} {x x' : Option α} {y y' : Option β} (first : Option.Rel R x y)
    (other : Option.Rel R x' y') : Option.Rel R (x.or x') (y.or y') := by
  cases first with
  | none => exact other
  | some results => exact .some results

theorem rel_findSome? {R : α → β → Prop} {f : γ → Option α} {g : γ → Option β} {xs : List γ}
    (each : ∀ x ∈ xs, Option.Rel R (f x) (g x)) :
    Option.Rel R (xs.findSome? f) (xs.findSome? g) := by
  induction xs with
  | nil => exact .none
  | cons x xs ih =>
    rw [List.findSome?_cons, List.findSome?_cons]
    have first := each x List.mem_cons_self
    generalize f x = a at first
    generalize g x = b at first
    cases first with
    | none => exact ih fun y hy => each y (List.mem_cons_of_mem x hy)
    | some results => exact .some results

theorem eq_of_rel {x y : Option α} (h : Option.Rel Eq x y) : x = y := by
  cases h with
  | none => rfl
  | some same => rw [same]

/-- What was read is the same, and what follows is the same up to a quote. -/
def SameReading (a b : α × List Char) : Prop := a.1 = b.1 ∧ SameToQuote a.2 b.2

theorem SameToQuote.afterWord? {word : String} (h : SameToQuote s t)
    (plain : word.toList.all fun c => !isQuote c) :
    Option.Rel SameToQuote (afterWord? word s) (afterWord? word t) := by
  obtain ⟨same, left⟩ := h.isPrefixOf plain
  unfold Protobuf.afterWord?
  rw [← same]
  split
  · rename_i found
    rw [String.length_toList] at left
    exact .some (left found)
  · exact .none

theorem SameToQuote.afterChar? {c : Char} (h : SameToQuote s t) (plain : isQuote c = false) :
    Option.Rel SameToQuote (afterChar? c s) (afterChar? c t) := by
  rcases h.cases with ⟨q, m, n, opens, rfl, rfl, -⟩ | ⟨d, u, v, rfl, rfl, rest⟩
  · have differ : (c == q) = false := beq_false_of_ne (ne_of_isQuote opens plain).symm
    simp only [Protobuf.afterChar?, differ]
    exact .none
  · unfold Protobuf.afterChar?
    dsimp only
    split
    · exact .some rest
    · exact .none

theorem SameToQuote.afterBlanks? (h : SameToQuote s t) :
    Option.Rel SameToQuote (afterBlanks? s) (afterBlanks? t) := by
  have skipped := h.skipBlanks
  rcases h.cases with ⟨q, m, n, opens, rfl, rfl, -⟩ | ⟨d, u, v, rfl, rfl, -⟩
  · simp only [Protobuf.afterBlanks?, isBlank_noQuotePasses q opens]
    exact .none
  · unfold Protobuf.afterBlanks?
    dsimp only
    split
    · exact .some skipped
    · exact .none

theorem SameToQuote.span? (h : SameToQuote s t) (passes : NoQuotePasses test) :
    Option.Rel SameReading (span? test s) (span? test t) := by
  have left := h.dropWhile passes
  have same : s.takeWhile test = t.takeWhile test := by
    obtain ⟨front, opens, -⟩ := h
    rw [takeWhile_append_quote (passes _ opens), takeWhile_append_quote (passes _ opens)]
  unfold Protobuf.span?
  dsimp only
  rw [same]
  split
  · exact .none
  · exact .some ⟨rfl, left⟩

theorem isOptionsTail_of_no_bracket {d : Char} {u : List Char} (hs : skipBlanks s = d :: u)
    (noBracket : d ≠ '[') : isOptionsTail s = false := by
  unfold isOptionsTail
  rw [hs]
  split
  · simp_all
  · simp_all
  · rfl

theorem SameToQuote.isOptionsTail_eq (h : SameToQuote s t) : isOptionsTail s = isOptionsTail t := by
  rcases h.skipBlanks.cases with ⟨q, m, n, opens, hs, ht, -⟩ | ⟨d, u, v, hs, ht, rest⟩
  · have noBracket : q ≠ '[' := ne_of_isQuote opens rfl
    rw [isOptionsTail_of_no_bracket hs noBracket, isOptionsTail_of_no_bracket ht noBracket]
  · by_cases bracket : d = '['
    · subst bracket
      simp only [isOptionsTail, hs, ht, rest.getLast?_eq]
    · rw [isOptionsTail_of_no_bracket hs bracket, isOptionsTail_of_no_bracket ht bracket]

theorem SameToQuote.mapType? (h : SameToQuote s t) :
    Option.Rel SameReading (mapType? s) (mapType? t) := by
  refine rel_bind (h.afterWord? (by decide)) fun s t h => ?_
  refine rel_bind (h.skipBlanks.afterChar? (by decide)) fun s t h => ?_
  refine rel_bind (h.skipBlanks.span? isPathChar_noQuotePasses) fun s t h => ?_
  refine rel_bind (h.2.skipBlanks.afterChar? (by decide)) fun s t h => ?_
  refine rel_bind (h.skipBlanks.span? isPathChar_noQuotePasses) fun a b h => ?_
  refine rel_bind (h.2.skipBlanks.afterChar? (by decide)) fun s t left => ?_
  exact .some ⟨by rw [h.1], left⟩

theorem SameToQuote.plainType? (h : SameToQuote s t) :
    Option.Rel SameReading (plainType? s) (plainType? t) := by
  refine rel_bind (h.span? isPathChar_noQuotePasses) fun a b h => ?_
  exact .some ⟨by rw [h.1], h.2⟩

theorem SameToQuote.fieldFromType? (h : SameToQuote s t) (label : Option String) :
    Option.Rel Eq (fieldFromType? label s) (fieldFromType? label t) := by
  refine rel_bind (rel_or h.mapType? h.plainType?) fun type type' h => ?_
  refine rel_bind h.2.afterBlanks? fun s t left => ?_
  refine rel_bind (left.span? isWord_noQuotePasses) fun name name' left => ?_
  refine rel_bind (left.2.skipBlanks.afterChar? (by decide)) fun s t rest => ?_
  refine rel_bind (rest.skipBlanks.span? isDecimalDigit_noQuotePasses) fun number number' last => ?_
  obtain ⟨number, s⟩ := number
  obtain ⟨number', t⟩ := number'
  obtain ⟨same, last⟩ := last
  dsimp only at same last ⊢
  rw [h.1, left.1, same, last.isOptionsTail_eq]
  split
  · exact .some rfl
  · exact .none

/-- A statement declares a field whatever its literals say. -/
theorem SameToQuote.field?_eq (h : SameToQuote s t) : field? s = field? t := by
  refine eq_of_rel (rel_or (rel_findSome? ?_) (h.fieldFromType? none))
  intro label known
  have plain : label.toList.all fun c => !isQuote c := by
    simp only [labels, List.mem_cons, List.not_mem_nil, or_false] at known
    rcases known with rfl | rfl | rfl <;> decide
  refine rel_bind (h.afterWord? plain) fun s t h => ?_
  exact rel_bind h.afterBlanks? fun s t h => h.fieldFromType? (some label)

theorem SameToQuote.packageName?_eq (h : SameToQuote s t) : packageName? s = packageName? t := by
  refine eq_of_rel (rel_bind (h.afterWord? (by decide)) fun s t h => ?_)
  refine rel_bind h.afterBlanks? fun s t h => ?_
  refine rel_bind (h.span? isPathChar_noQuotePasses) fun a b h => ?_
  obtain ⟨hs, ht⟩ := h.2.ne_nil
  simp only [List.isEmpty_iff, hs, ht, if_false]
  exact .none

theorem SameToQuote.blockHeader?_eq (h : SameToQuote s t) : blockHeader? s = blockHeader? t := by
  refine eq_of_rel (rel_findSome? ?_)
  intro keyword known
  have plain : keyword.toList.all fun c => !isQuote c := by
    simp only [blockKeywords, List.mem_cons, List.not_mem_nil, or_false] at known
    rcases known with rfl | rfl | rfl | rfl | rfl <;> decide
  refine rel_bind (h.afterWord? plain) fun s t h => ?_
  refine rel_bind h.afterBlanks? fun s t h => ?_
  refine rel_bind (h.span? isPathChar_noQuotePasses) fun a b h => ?_
  obtain ⟨hs, ht⟩ := h.2.ne_nil
  simp only [List.isEmpty_iff, hs, ht, if_false]
  exact .none

/-- A whole number behind its sign. -/
def magnitude? (negative : Bool) (s : List Char) : Option (NumberText × List Char) :=
  let decimal := (span? Text.isDecimalDigit s).map fun (ds, rest) =>
    ((⟨negative, 10, ds⟩ : NumberText), rest)
  let hexadecimal := do
    let s ← afterChar? '0' s
    let s ← (afterChar? 'x' s).or (afterChar? 'X' s)
    let (ds, rest) ← span? isHexDigit s
    return ((⟨negative, 16, ds⟩ : NumberText), rest)
  hexadecimal.or decimal

theorem magnitude?_eq (negative : Bool) (s : List Char) : magnitude? negative s =
    let decimal := (span? Text.isDecimalDigit s).map fun (ds, rest) =>
      ((⟨negative, 10, ds⟩ : NumberText), rest)
    match s with
    | '0' :: x :: rest =>
      if x == 'x' || x == 'X' then
        match span? isHexDigit rest with
        | some (ds, rest) => some (⟨negative, 16, ds⟩, rest)
        | none => decimal
      else decimal
    | _ => decimal := by
  unfold magnitude?
  dsimp only
  split
  · rename_i x rest
    simp only [afterChar?, beq_self_eq_true, if_true, Option.bind_eq_bind, Option.bind_some]
    by_cases lower : x = 'x'
    · subst lower
      cases digits : span? isHexDigit rest <;> simp [digits]
    · by_cases upper : x = 'X'
      · subst upper
        cases digits : span? isHexDigit rest <;> simp [digits]
      · simp [lower, upper, Ne.symm lower, Ne.symm upper]
  · rename_i other
    match s with
    | [] => rfl
    | [c] =>
      by_cases zero : c = '0'
      · subst zero
        simp [afterChar?]
      · simp [afterChar?, Ne.symm zero]
    | c :: x :: rest =>
      have zero : c ≠ '0' := fun zero => other x rest (by rw [zero])
      simp [afterChar?, Ne.symm zero]

theorem number?_eq_magnitude? (s : List Char) :
    number? s = ((afterChar? '-' s).map (magnitude? true)).getD (magnitude? false s) := by
  match s with
  | [] => rfl
  | c :: rest =>
    by_cases sign : c = '-'
    · subst sign
      simp only [afterChar?, beq_self_eq_true, if_true, Option.map_some, Option.getD_some]
      rw [magnitude?_eq]
      rfl
    · have plain : afterChar? '-' (c :: rest) = none := by simp [afterChar?, Ne.symm sign]
      rw [plain, Option.map_none, Option.getD_none, magnitude?_eq]
      unfold number?
      split
      rename_i negative s signed
      split at signed
      · rename_i same
        exact absurd (List.cons.inj same).1 sign
      · cases signed
        rfl

theorem SameToQuote.magnitude? (h : SameToQuote s t) (negative : Bool) :
    Option.Rel SameReading (magnitude? negative s) (magnitude? negative t) := by
  refine rel_or ?_ ?_
  · refine rel_bind (h.afterChar? (by decide)) fun s t h => ?_
    refine rel_bind (rel_or (h.afterChar? (by decide)) (h.afterChar? (by decide))) fun s t h => ?_
    refine rel_bind (h.span? isHexDigit_noQuotePasses) fun a b h => ?_
    exact .some ⟨by rw [h.1], h.2⟩
  · have digits := h.span? isDecimalDigit_noQuotePasses
    generalize Protobuf.span? Text.isDecimalDigit s = a at digits
    generalize Protobuf.span? Text.isDecimalDigit t = b at digits
    cases digits with
    | none => exact .none
    | some same => exact .some ⟨congrArg (NumberText.mk negative 10) same.1, same.2⟩

theorem SameToQuote.number? (h : SameToQuote s t) :
    Option.Rel SameReading (number? s) (number? t) := by
  rw [number?_eq_magnitude?, number?_eq_magnitude?]
  have sign := h.afterChar? (c := '-') (by decide)
  generalize Protobuf.afterChar? '-' s = a at sign
  generalize Protobuf.afterChar? '-' t = b at sign
  cases sign with
  | none => exact h.magnitude? false
  | some rest => exact rest.magnitude? true

theorem SameToQuote.enumValue?_eq (h : SameToQuote s t) : enumValue? s = enumValue? t := by
  refine eq_of_rel (rel_bind (h.span? isWord_noQuotePasses) fun name name' h => ?_)
  refine rel_bind (h.2.skipBlanks.afterChar? (by decide)) fun s t left => ?_
  refine rel_bind left.skipBlanks.number? fun number number' last => ?_
  obtain ⟨number, s⟩ := number
  obtain ⟨number', t⟩ := number'
  obtain ⟨same, last⟩ := last
  dsimp only at same last ⊢
  rw [h.1, same, last.isOptionsTail_eq]
  split
  · exact .some rfl
  · exact .none

theorem SameToQuote.isOneofHeader_eq (h : SameToQuote s t) : isOneofHeader s = isOneofHeader t :=
  (h.isPrefixOf (by decide)).1

theorem all_of_mem_skippedWords {word : String} (h : word ∈ skippedWords) :
    word.toList.all fun c => !isQuote c := by
  simp only [skippedWords, List.mem_cons, List.not_mem_nil, or_false] at h
  rcases h with rfl | rfl | rfl | rfl | rfl | rfl | rfl <;> decide

/-- A statement starts with a word that declares nothing, or does not, whatever its literals say. -/
theorem SameToQuote.skipped_eq (h : SameToQuote s t) :
    skippedWords.contains (firstWord s) = skippedWords.contains (firstWord t) := by
  obtain ⟨front, opens, -⟩ := h
  rename_i q m n
  by_cases space : ∃ c ∈ front, (c != ' ') = false
  · obtain ⟨c, hc, stop⟩ := space
    have same (m : List Char) :
        (front ++ q :: m).takeWhile (· != ' ') = front.takeWhile (· != ' ') := by
      have stops (s m : List Char) :
          (s ++ c :: m).takeWhile (· != ' ') = s.takeWhile (· != ' ') := by
        apply takeWhile_append_quote
        exact stop
      obtain ⟨a, b, rfl⟩ := List.append_of_mem hc
      rw [List.append_assoc, List.cons_append, stops, stops]
    simp only [firstWord, same]
  · have passes : ∀ c ∈ front, (c != ' ') = true := by
      intro c hc
      by_contra stop
      exact space ⟨c, hc, by simpa using stop⟩
    have differ : (q != ' ') = true := by rcases isQuote_cases opens with rfl | rfl <;> rfl
    have unskipped (m : List Char) : firstWord (front ++ q :: m) ∉ skippedWords := by
      intro found
      have plain := List.all_eq_true.mp (all_of_mem_skippedWords found) q (by
        rw [firstWord, String.toList_ofList, List.takeWhile_append_of_pos passes]
        simp [differ])
      simp [opens] at plain
    simp [unskipped]

/-! ### The syntax level -/

theorem eq_of_afterWord? {word : String} {rest : List Char} (h : afterWord? word s = some rest) :
    s = word.toList ++ rest := by
  unfold afterWord? at h
  split at h
  · rename_i found
    cases h
    obtain ⟨t, rfl⟩ := List.isPrefixOf_iff_prefix.mp found
    rw [← String.length_toList, List.drop_left]
  · cases h

theorem eq_of_afterChar? {c : Char} {rest : List Char} (h : afterChar? c s = some rest) :
    s = c :: rest := by
  cases s with
  | nil => cases h
  | cons d s =>
    unfold afterChar? at h
    dsimp only at h
    split at h
    · rename_i same
      cases h
      rw [beq_iff_eq.mp same]
    · cases h

theorem exists_skipBlanks (s : List Char) :
    ∃ gap, (∀ c ∈ gap, isBlank c = true) ∧ s = gap ++ skipBlanks s :=
  ⟨s.takeWhile isBlank, fun _ => List.mem_takeWhile_imp, List.takeWhile_append_dropWhile.symm⟩

theorem eq_and_forall_of_span? {run rest : List Char} (h : span? test s = some (run, rest)) :
    s = run ++ rest ∧ ∀ c ∈ run, test c = true := by
  unfold span? at h
  dsimp only at h
  split at h
  · cases h
  · cases h
    exact ⟨List.takeWhile_append_dropWhile.symm, fun _ => List.mem_takeWhile_imp⟩

/-- The form of a statement that gives a syntax level. -/
theorem exists_of_syntaxValue? {value : List Char} (h : syntaxValue? s = some value) :
    ∃ gap gap' q q', (∀ c ∈ gap, isBlank c = true) ∧ (∀ c ∈ gap', isBlank c = true) ∧
      isQuote q = true ∧ (∀ c ∈ value, isQuote c = false) ∧
      s = ("syntax".toList ++ gap ++ '=' :: gap') ++ q :: (value ++ [q']) := by
  unfold syntaxValue? at h
  obtain ⟨u, hu, h⟩ := Option.bind_eq_some_iff.mp h
  obtain ⟨v, hv, h⟩ := Option.bind_eq_some_iff.mp h
  have word := eq_of_afterWord? hu
  obtain ⟨gap, blank, left⟩ := exists_skipBlanks u
  have sign := eq_of_afterChar? hv
  obtain ⟨gap', blank', left'⟩ := exists_skipBlanks v
  split at h
  · rename_i q w hw
    split at h
    · rename_i opens
      obtain ⟨⟨run, rest⟩, spanned, h⟩ := Option.bind_eq_some_iff.mp h
      obtain ⟨whole, plain⟩ := eq_and_forall_of_span? spanned
      dsimp only at h
      split at h
      · rename_i q'
        cases h
        refine ⟨gap, gap', q, q', blank, blank', opens, by simpa using plain, ?_⟩
        rw [word, left, sign, left', hw, whole]
        simp
      · cases h
    · cases h
  · cases h

theorem countP_isQuote_of_blanks (h : ∀ c ∈ s, isBlank c = true) : s.countP isQuote = 0 := by
  refine List.countP_eq_zero.mpr fun c hc opens => ?_
  have blank := h c hc
  rw [isBlank_noQuotePasses c opens] at blank
  exact Bool.false_ne_true blank

/-- A literal that gives the syntax level stands behind nothing but the keyword and the sign, and
nothing follows it. -/
theorem front_of_syntaxValue? {front e value : List Char} (opens : isQuote q = true)
    (h : syntaxValue? (front ++ q :: (m ++ q :: e)) = some value) :
    e = [] ∧ ∃ gap gap', (∀ c ∈ gap, isBlank c = true) ∧ (∀ c ∈ gap', isBlank c = true) ∧
      front = "syntax".toList ++ gap ++ '=' :: gap' := by
  obtain ⟨gap, gap', first, last, blank, blank', opens', plain, whole⟩ := exists_of_syntaxValue? h
  have closed : isQuote last = true ∧ front.countP isQuote = 0 ∧ e.countP isQuote = 0 := by
    have count := congrArg (List.countP isQuote) whole
    have word : "syntax".toList.countP isQuote = 0 := by decide
    have sign : isQuote '=' = false := by decide
    have inside : value.countP isQuote = 0 := List.countP_eq_zero.mpr (by simpa using plain)
    simp only [List.countP_append, List.countP_cons, List.countP_nil, opens, opens', word, sign,
      inside, countP_isQuote_of_blanks blank, countP_isQuote_of_blanks blank'] at count
    cases closes : isQuote last with
    | false =>
      simp only [closes, if_true, Bool.false_eq_true, if_false] at count
      omega
    | true =>
      simp only [closes, if_true, Bool.false_eq_true, if_false] at count
      exact ⟨rfl, by omega, by omega⟩
  obtain ⟨closes, before, behind⟩ := closed
  have sameFront : front = "syntax".toList ++ gap ++ '=' :: gap' := by
    have noQuote (s : List Char) (h : s.countP isQuote = 0) :
        s.takeWhile (fun c => !isQuote c) = s :=
      List.takeWhile_eq_self_iff.mpr (by simpa using List.countP_eq_zero.mp h)
    have cut := congrArg (List.takeWhile fun c => !isQuote c) whole
    rw [takeWhile_append_quote (by simp [opens]), takeWhile_append_quote (by simp [opens']),
      noQuote front before] at cut
    rw [cut]
    refine noQuote _ ?_
    have word : "syntax".toList.countP isQuote = 0 := by decide
    have sign : isQuote '=' = false := by decide
    simp only [List.countP_append, List.countP_cons, word, sign, countP_isQuote_of_blanks blank,
      countP_isQuote_of_blanks blank', Bool.false_eq_true, if_false]
  refine ⟨?_, gap, gap', blank, blank', sameFront⟩
  rw [sameFront] at whole
  have rest := (List.cons.inj (List.append_cancel_left whole)).2
  rcases List.eq_nil_or_concat e with rfl | ⟨u, c, rfl⟩
  · rfl
  · have same : c = last := by
      have parts : m ++ q :: (u ++ [c]) = (m ++ q :: u) ++ [c] := by simp
      rw [List.concat_eq_append, parts] at rest
      exact (List.cons.inj (List.append_inj' rest rfl).2).1
    have noQuote := List.countP_eq_zero.mp behind c (by simp)
    rw [same, closes] at noQuote
    exact absurd rfl noQuote

/-- The text in front of such a literal, normalized. -/
theorem normalizeBlanks_of_syntaxLine {gap gap' : List Char} (blank : ∀ c ∈ gap, isBlank c = true)
    (blank' : ∀ c ∈ gap', isBlank c = true)
    (h : Text.normalizeBlanks s ++ t = "syntax".toList ++ gap ++ '=' :: gap')
    (behind : ∀ c ∈ t, isBlank c = true) :
    Text.normalizeBlanks s = "syntax =".toList ∨ Text.normalizeBlanks s = "syntax=".toList := by
  have words : Text.words s = Text.words ("syntax".toList ++ gap ++ '=' :: gap') := by
    rw [← h, Text.words_append_blanks behind, Text.words_normalizeBlanks]
  have joined : Text.normalizeBlanks s = [' '].intercalate (Text.words s) := rfl
  rw [joined, words]
  cases gap with
  | nil =>
    have word : Text.words ("syntax".toList ++ [] ++ '=' :: gap') = ["syntax=".toList] := by
      rw [List.append_nil, List.append_cons, Text.words_append_blanks blank']
      decide +kernel
    rw [word]
    exact .inr rfl
  | cons c gap =>
    have word : Text.words ("syntax".toList ++ c :: gap ++ '=' :: gap') =
        ["syntax".toList, ['=']] := by
      have ends : Text.EndsWord (c :: gap ++ '=' :: gap') :=
        Text.endsWord_cons_iff.mpr (blank c List.mem_cons_self)
      have letters : "syntax".toList.all fun c => !isBlank c := by decide +kernel
      have sign : Text.words ('=' :: gap') = [['=']] := Text.words_append_blanks blank' ['=']
      rw [List.append_assoc, Text.words_word_append (by decide) (by simpa using letters) ends,
        Text.words_blanks_append blank, sign]
    rw [word]
    exact .inl rfl

end SchemaReview.Protobuf
