import Mathlib
import SchemaReview.Protobuf.Comment
import SchemaReview.Protobuf.Line

/-!
# Texts without their comments

Blanking the comments of a text moves nothing: every line, every offset and every string literal
stays where it was. What makes this work is that the pieces of the blanked text are those of the
text, with a space for each character of a comment. So a blanked text has no comments, and blanking
it again changes nothing.

A piece is cut off a text because of what follows it. Most of this holds for whatever follows; but a
quote opens nothing only as long as no quote closes it, and a slash and a star open nothing only as
long as no star and slash follow. Blanking a comment takes quotes away and adds none, and the
backslashes that it takes away stand in front of characters of the comment or of a line feed.
-/
namespace SchemaReview.Protobuf

variable {quote : Char} {s t rest body : List Char}

/-- The text that pieces were cut from. -/
def textOf (ps : List Piece) : List Char := ps.flatMap Piece.text

@[simp] theorem textOf_nil : textOf [] = [] := rfl

@[simp] theorem textOf_cons (p : Piece) (ps : List Piece) :
    textOf (p :: ps) = p.text ++ textOf ps := rfl

@[simp] theorem textOf_append (ps qs : List Piece) :
    textOf (ps ++ qs) = textOf ps ++ textOf qs := List.flatMap_append

@[simp] theorem textOf_pieces (s : List Char) : textOf (pieces s) = s := by
  fun_induction pieces s with
  | case1 => rfl
  | case2 c s ih => rw [textOf_cons, ih, firstPiece_append]

/-! ### The search for a closing quote -/

/-- Where the search for a quote stands behind a text: whether the last character was a backslash
that takes the next one with it, or `none` if the quote was found. -/
def seek (quote : Char) : Bool → List Char → Option Bool
  | escaped, [] => some escaped
  | true, _ :: s => seek quote false s
  | false, c :: s =>
    if c = '\\' then seek quote true s else if c = quote then none else seek quote false s

theorem seek_append (escaped : Bool) (s t : List Char) :
    seek quote escaped (s ++ t) = (seek quote escaped s).bind fun e => seek quote e t := by
  fun_induction seek quote escaped s with
  | case1 => rfl
  | case2 c s ih => exact ih
  | case3 s ih => simp [seek, ih]
  | case4 s h => simp [seek, h]
  | case5 c s h hq ih => simp [seek, h, hq, ih]

theorem takeLiteral_cons {c : Char} (h : c ≠ '\\') : takeLiteral quote (c :: s) =
    if c = quote then some ([c], s)
    else (takeLiteral quote s).map fun (body, rest) => (c :: body, rest) := by
  rw [takeLiteral.eq_def]
  split
  · rename_i same
    cases same
  · rename_i same
    cases same
    exact absurd rfl h
  · rename_i same
    cases same
    exact absurd rfl h
  · rename_i same
    cases same
    simp only [beq_iff_eq]

/-- How a text goes on behind a quote that opens a literal: there is nothing, a backslash at the
end, a backslash and the character that it takes, or another character. -/
theorem takeLiteral_induction {motive : List Char → Prop} (nil : motive [])
    (last : motive ['\\']) (escaped : ∀ c s, motive s → motive ('\\' :: c :: s))
    (plain : ∀ c s, c ≠ '\\' → motive s → motive (c :: s)) (s : List Char) : motive s := by
  match s with
  | [] => exact nil
  | c :: rest =>
    by_cases h : c = '\\'
    · subst h
      match rest with
      | [] => exact last
      | d :: rest => exact escaped d rest (takeLiteral_induction nil last escaped plain rest)
    · exact plain c rest h (takeLiteral_induction nil last escaped plain rest)

/-- A quote opens no literal if it is not found again. -/
theorem takeLiteral_eq_none_iff : takeLiteral quote s = none ↔ (seek quote false s).isSome := by
  induction s using takeLiteral_induction with
  | nil => simp [takeLiteral, seek]
  | last => simp [takeLiteral, seek]
  | escaped c s ih => simp [takeLiteral, seek, ih]
  | plain c s h ih =>
    rw [takeLiteral_cons h, seek, if_neg h]
    split
    · simp
    · simp [ih]

/-- A literal ends where it does whatever follows it. -/
theorem takeLiteral_of_eq_some (h : takeLiteral quote s = some (body, rest)) (t : List Char) :
    takeLiteral quote (body ++ t) = some (body, t) := by
  induction s using takeLiteral_induction generalizing body with
  | nil => simp [takeLiteral] at h
  | last => simp [takeLiteral] at h
  | escaped c s ih =>
    obtain ⟨⟨b, r⟩, hb, he⟩ := Option.map_eq_some_iff.mp h
    cases he
    simp [takeLiteral, ih hb]
  | plain c s hc ih =>
    rw [takeLiteral_cons hc] at h
    split at h
    · cases h
      rw [List.singleton_append, takeLiteral_cons hc, if_pos ‹_›]
    · obtain ⟨⟨b, r⟩, hb, he⟩ := Option.map_eq_some_iff.mp h
      cases he
      rw [List.cons_append, takeLiteral_cons hc, if_neg ‹_›, ih hb]
      rfl

/-! ### The end of a block comment -/

/-- The mark that ends a block comment. -/
def endMark : List Char := ['*', '/']

theorem endMark_isPrefix_iff {c : Char} : endMark <+: c :: s ↔ c = '*' ∧ ∃ t, s = '/' :: t := by
  constructor
  · rintro ⟨t, h⟩
    cases h
    exact ⟨rfl, t, rfl⟩
  · rintro ⟨rfl, t, rfl⟩
    exact ⟨t, rfl⟩

theorem takeBlockComment_cons {c : Char} (h : ¬ endMark <+: c :: s) :
    takeBlockComment (c :: s) =
      (takeBlockComment s).map fun (body, rest) => (c :: body, rest) := by
  rw [takeBlockComment.eq_def]
  split
  · rename_i same
    cases same
  · rename_i same
    rw [same] at h
    exact absurd ⟨_, rfl⟩ h
  · rename_i same
    cases same
    rfl

/-- A block comment opens only if its end mark follows. -/
theorem takeBlockComment_eq_none_iff : takeBlockComment s = none ↔ ¬ endMark <:+: s := by
  induction s with
  | nil => simp [takeBlockComment, endMark]
  | cons c s ih =>
    rw [List.infix_cons_iff]
    by_cases h : endMark <+: c :: s
    · obtain ⟨rfl, t, rfl⟩ := endMark_isPrefix_iff.mp h
      simp [takeBlockComment, h]
    · rw [takeBlockComment_cons h, Option.map_eq_none_iff, ih]
      simp [h]

theorem exists_of_takeBlockComment (h : takeBlockComment s = some (body, rest)) :
    ∃ u, body = u ++ endMark := by
  induction s generalizing body with
  | nil => simp [takeBlockComment] at h
  | cons c s ih =>
    by_cases hp : endMark <+: c :: s
    · obtain ⟨rfl, t, rfl⟩ := endMark_isPrefix_iff.mp hp
      cases h
      exact ⟨[], rfl⟩
    · rw [takeBlockComment_cons hp] at h
      obtain ⟨⟨b, r⟩, hb, he⟩ := Option.map_eq_some_iff.mp h
      cases he
      obtain ⟨u, rfl⟩ := ih hb
      exact ⟨c :: u, rfl⟩

/-- A block comment ends where it does whatever follows it. -/
theorem takeBlockComment_of_eq_some (h : takeBlockComment s = some (body, rest))
    (t : List Char) : takeBlockComment (body ++ t) = some (body, t) := by
  induction s generalizing body with
  | nil => simp [takeBlockComment] at h
  | cons c s ih =>
    by_cases hp : endMark <+: c :: s
    · obtain ⟨rfl, u, rfl⟩ := endMark_isPrefix_iff.mp hp
      cases h
      rfl
    · rw [takeBlockComment_cons hp] at h
      obtain ⟨⟨b, r⟩, hb, he⟩ := Option.map_eq_some_iff.mp h
      cases he
      have again : ¬ endMark <+: c :: (b ++ t) := by
        intro found
        obtain ⟨rfl, u, hu⟩ := endMark_isPrefix_iff.mp found
        -- the body is not empty, so the slash is its own
        obtain ⟨v, rfl⟩ := exists_of_takeBlockComment hb
        have text := takeBlockComment_append hb
        cases v with
        | nil => simp [endMark] at hu
        | cons d v =>
          have first : d = '/' := (List.cons.inj hu).1
          exact hp (endMark_isPrefix_iff.mpr ⟨rfl, _, by rw [← text, first]; rfl⟩)
      rw [List.cons_append, takeBlockComment_cons again, ih hb]
      rfl

/-! ### Pieces and what follows them -/

/-- A piece that is cut off a text because of what follows it there. -/
inductive IsCut : Piece → List Char → Prop
  | literal {q : Char} {b r : List Char} (opens : isQuote q = true)
      (closed : ∀ t, takeLiteral q (b ++ t) = some (b, t)) : IsCut (.literal (q :: b)) r
  | line {b r : List Char} (within : '\n' ∉ b) (ends : r = [] ∨ ∃ t, r = '\n' :: t) :
      IsCut (.comment ('/' :: '/' :: b)) r
  | block {b r : List Char}
      (closed : ∀ t, takeBlockComment (b ++ endMark ++ t) = some (b ++ endMark, t)) :
      IsCut (.comment ('/' :: '*' :: (b ++ endMark))) r
  | quote {q : Char} {r : List Char} (opens : isQuote q = true)
      (unclosed : (seek q false r).isSome) : IsCut (.plain q) r
  | slash {r : List Char} (noLine : ∀ t, r ≠ '/' :: t)
      (noBlock : ∀ t, r = '*' :: t → ¬ endMark <:+: t) : IsCut (.plain '/') r
  | other {c : Char} {r : List Char} (noQuote : isQuote c = false) (noSlash : c ≠ '/') :
      IsCut (.plain c) r

theorem firstPiece_of_isQuote {c : Char} (h : isQuote c = true) (s : List Char) :
    firstPiece c s = match takeLiteral c s with
      | some (body, rest) => (.literal (c :: body), rest)
      | none => (.plain c, s) := if_pos h

theorem firstPiece_slash (s : List Char) :
    firstPiece '/' s = match s with
      | '/' :: _ => (.comment ('/' :: s.takeWhile (· != '\n')), s.dropWhile (· != '\n'))
      | '*' :: t =>
        match takeBlockComment t with
        | some (body, rest) => (.comment ('/' :: '*' :: body), rest)
        | none => (.plain '/', s)
      | _ => (.plain '/', s) := rfl

theorem firstPiece_of_other {c : Char} (h : isQuote c = false) (hs : c ≠ '/') (s : List Char) :
    firstPiece c s = (.plain c, s) := by
  have noQuote : ¬ (c == '"' || c == '\'') = true := by simpa [isQuote] using h
  have noSlash : ¬ (c == '/') = true := by simpa using hs
  unfold firstPiece
  rw [if_neg noQuote, if_neg noSlash]

theorem isCut_firstPiece (c : Char) (s : List Char) :
    IsCut (firstPiece c s).1 (firstPiece c s).2 := by
  by_cases opens : isQuote c = true
  · rw [firstPiece_of_isQuote opens]
    cases taken : takeLiteral c s with
    | none => exact .quote opens (takeLiteral_eq_none_iff.mp taken)
    | some p => exact .literal opens (takeLiteral_of_eq_some taken)
  · by_cases slash : c = '/'
    · subst slash
      rw [firstPiece_slash]
      split
      · rename_i t
        have within : '\n' ∉ t.takeWhile (· != '\n') := by
          intro found
          simpa using List.mem_takeWhile_imp found
        refine .line (b := t.takeWhile (· != '\n')) within ?_
        cases left : t.dropWhile (· != '\n') with
        | nil => exact .inl left
        | cons d r =>
          have stops := List.head?_dropWhile_not (· != '\n') t
          rw [left] at stops
          have hd : d = '\n' := by simpa using stops
          subst hd
          exact .inr ⟨r, left⟩
      · rename_i t
        cases taken : takeBlockComment t with
        | none =>
          refine .slash (by simp) ?_
          rintro _ ⟨⟩
          exact takeBlockComment_eq_none_iff.mp taken
        | some p =>
          obtain ⟨body, rest⟩ := p
          obtain ⟨u, rfl⟩ := exists_of_takeBlockComment taken
          exact .block (takeBlockComment_of_eq_some taken)
      · rename_i noLine noBlock
        exact .slash noLine fun t h => absurd h (noBlock t)
    · rw [firstPiece_of_other (by simpa using opens) slash]
      exact .other (by simpa using opens) slash

/-- A piece that is cut off is the first one. -/
theorem pieces_of_isCut {p : Piece} (h : IsCut p rest) :
    pieces (p.text ++ rest) = p :: pieces rest := by
  cases h with
  | literal opens closed =>
    rw [Piece.text, List.cons_append, pieces, firstPiece_of_isQuote opens, closed]
  | @line b _ within ends =>
    have passes : ∀ d ∈ b, (d != '\n') = true := by
      intro d hd
      rw [bne_iff_ne]
      exact fun same => within (same ▸ hd)
    have stops : rest.takeWhile (· != '\n') = [] ∧ rest.dropWhile (· != '\n') = rest := by
      rcases ends with rfl | ⟨t, rfl⟩ <;> simp
    have taken : (b ++ rest).takeWhile (· != '\n') = b := by
      rw [List.takeWhile_append_of_pos passes, stops.1, List.append_nil]
    have left : (b ++ rest).dropWhile (· != '\n') = rest := by
      rw [List.dropWhile_append_of_pos passes, stops.2]
    simp [Piece.text, pieces, firstPiece_slash, taken, left]
  | block closed =>
    have taken := closed rest
    rw [List.append_assoc] at taken
    simp [Piece.text, pieces, firstPiece_slash, taken]
  | quote opens unclosed =>
    rw [Piece.text, List.singleton_append, pieces, firstPiece_of_isQuote opens,
      takeLiteral_eq_none_iff.mpr unclosed]
  | slash noLine noBlock =>
    rw [Piece.text, List.singleton_append, pieces, firstPiece_slash]
    split
    · exact absurd rfl (noLine _)
    · rename_i t
      rw [takeBlockComment_eq_none_iff.mpr (noBlock t rfl)]
    · rfl
  | other noQuote noSlash =>
    rw [Piece.text, List.singleton_append, pieces, firstPiece_of_other noQuote noSlash]

/-- Every text is cut into pieces, one by one. -/
theorem pieces_induction {motive : List Char → Prop} (nil : motive [])
    (cut : ∀ p rest, IsCut p rest → motive rest → motive (p.text ++ rest)) (s : List Char) :
    motive s := by
  fun_induction pieces s with
  | case1 => exact nil
  | case2 c s ih =>
    rw [← firstPiece_append c s]
    exact cut _ _ (isCut_firstPiece c s) ih

/-! ### What blanking does to a text -/

@[simp] theorem stripComments_nil : stripComments [] = [] := by simp [stripComments, pieces]

theorem stripComments_of_isCut {p : Piece} (h : IsCut p rest) :
    stripComments (p.text ++ rest) = p.blanked ++ stripComments rest := by
  rw [stripComments, pieces_of_isCut h, List.flatMap_cons, stripComments]

/-- A character of a text and the one that takes its place: itself or a space. -/
def KeptOrBlank (c d : Char) : Prop := d = c ∨ c ≠ '\n' ∧ d = ' '

theorem keptOrBlank_blankChar (c : Char) : KeptOrBlank c (blankChar c) := by
  unfold KeptOrBlank blankChar
  by_cases h : c = '\n' <;> simp [h]

theorem Piece.keptOrBlank_blanked (p : Piece) : List.Forall₂ KeptOrBlank p.text p.blanked := by
  cases p with
  | comment t =>
    exact List.forall₂_map_right_iff.mpr (List.forall₂_same.mpr fun c _ => keptOrBlank_blankChar c)
  | literal t => exact List.forall₂_same.mpr fun _ _ => .inl rfl
  | plain c => exact List.forall₂_same.mpr fun _ _ => .inl rfl

theorem keptOrBlank_stripComments (s : List Char) :
    List.Forall₂ KeptOrBlank s (stripComments s) := by
  induction s using pieces_induction with
  | nil => simp
  | cut p rest h ih =>
    rw [stripComments_of_isCut h]
    exact List.rel_append p.keptOrBlank_blanked ih

/-- Blanking writes no end mark of a block comment. -/
theorem endMark_infix_of_keptOrBlank (h : List.Forall₂ KeptOrBlank s t)
    (found : endMark <:+: t) : endMark <:+: s := by
  induction h with
  | nil => exact found
  | @cons c d s t hc hs ih =>
    rcases List.infix_cons_iff.mp found with first | later
    · obtain ⟨rfl, u, rfl⟩ := endMark_isPrefix_iff.mp first
      obtain ⟨e, v, he, -, rfl⟩ := List.forall₂_cons_right_iff.mp hs
      have star : c = '*' := by simpa [KeptOrBlank, eq_comm] using hc
      have slash : e = '/' := by simpa [KeptOrBlank, eq_comm] using he
      exact (endMark_isPrefix_iff.mpr ⟨star, v, by rw [slash]⟩).isInfix
    · exact List.infix_cons_iff.mpr (.inr (ih later))

theorem blankChar_cases (c : Char) : blankChar c = ' ' ∨ blankChar c = '\n' := by
  unfold blankChar
  split <;> simp

/-- Nothing is found in a blanked comment, and no backslash stands at its end. -/
theorem seek_blanks (h : isQuote quote = true) (escaped : Bool) (t : List Char) (ht : t ≠ []) :
    seek quote escaped (t.map blankChar) = some false := by
  have space : quote ≠ ' ' ∧ quote ≠ '\n' := ⟨ne_of_isQuote h rfl, ne_of_isQuote h rfl⟩
  have plain (s : List Char) : seek quote false (s.map blankChar) = some false := by
    induction s with
    | nil => rfl
    | cons c s ih =>
      rcases blankChar_cases c with hc | hc <;>
        simp [seek, hc, ih, space.1.symm, space.2.symm]
  cases t with
  | nil => exact absurd rfl ht
  | cons c t =>
    cases escaped with
    | false => exact plain (c :: t)
    | true => exact plain t

/-- A backslash at the end of a comment takes nothing with it that could close a literal. -/
theorem IsCut.seek_rest {t : List Char} (h : IsCut (.comment t) rest) (hq : isQuote quote = true)
    {escaped : Bool} (found : (seek quote escaped (t ++ rest)).isSome) :
    (seek quote false rest).isSome := by
  rw [seek_append] at found
  obtain ⟨e, he⟩ : ∃ e, seek quote escaped t = some e := by
    cases hs : seek quote escaped t with
    | none => simp [hs] at found
    | some e => exact ⟨e, rfl⟩
  rw [he, Option.bind_some] at found
  cases h with
  | line within ends =>
    rcases ends with rfl | ⟨r, rfl⟩
    · rfl
    · have feed : quote ≠ '\n' := ne_of_isQuote hq rfl
      cases e with
      | false => exact found
      | true => simpa [seek, feed.symm] using found
  | @block b _ _ =>
    have last : e = false := by
      have parts : '/' :: '*' :: (b ++ endMark) = ('/' :: '*' :: b ++ ['*']) ++ ['/'] := by
        simp [endMark]
      rw [parts, seek_append] at he
      obtain ⟨f, -, hf⟩ := Option.bind_eq_some_iff.mp he
      cases f with
      | true => simpa [seek] using hf.symm
      | false =>
        simp only [seek] at hf
        split at hf <;> simp_all
    rwa [last] at found

/-- Blanking closes no literal. -/
theorem seek_stripComments (h : isQuote quote = true) (escaped : Bool) (s : List Char)
    (found : (seek quote escaped s).isSome) : (seek quote escaped (stripComments s)).isSome := by
  induction s using pieces_induction generalizing escaped with
  | nil => simpa using found
  | cut p rest hp ih =>
    rw [stripComments_of_isCut hp]
    have kept (same : p.blanked = p.text) :
        (seek quote escaped (p.blanked ++ stripComments rest)).isSome := by
      rw [same, seek_append]
      rw [seek_append] at found
      cases hs : seek quote escaped p.text with
      | none => simp [hs] at found
      | some e => exact ih e (by simpa [hs] using found)
    cases p with
    | literal t => exact kept rfl
    | plain c => exact kept rfl
    | comment t =>
      have nonempty : t ≠ [] := by cases hp <;> simp
      rw [Piece.blanked, seek_append, seek_blanks h escaped t nonempty]
      exact ih false (hp.seek_rest h found)

/-- A piece that is no comment is still cut off when the comments behind it are blanked. -/
theorem IsCut.stripComments {p : Piece} (h : IsCut p rest) (kept : ∀ t, p ≠ .comment t) :
    IsCut p (Protobuf.stripComments rest) := by
  cases h with
  | literal opens closed => exact .literal opens closed
  | line => exact absurd rfl (kept _)
  | block => exact absurd rfl (kept _)
  | quote opens unclosed => exact .quote opens (seek_stripComments opens false _ unclosed)
  | slash noLine noBlock =>
    have pointwise := keptOrBlank_stripComments rest
    refine .slash ?_ ?_
    · intro t ht
      rw [ht] at pointwise
      obtain ⟨c, u, hc, -, rfl⟩ := List.forall₂_cons_right_iff.mp pointwise
      have slash : c = '/' := by simpa [KeptOrBlank, eq_comm] using hc
      exact noLine u (by rw [slash])
    · intro t ht found
      rw [ht] at pointwise
      obtain ⟨c, u, hc, hu, rfl⟩ := List.forall₂_cons_right_iff.mp pointwise
      have star : c = '*' := by simpa [KeptOrBlank, eq_comm] using hc
      exact noBlock u (by rw [star]) (endMark_infix_of_keptOrBlank hu found)
  | other noQuote noSlash => exact .other noQuote noSlash

/-! ### The pieces of a text without its comments -/

/-- What a piece is cut into when comments are blanked. -/
def Piece.bare : Piece → List Piece
  | .comment t => t.map fun c => .plain (blankChar c)
  | p => [p]

theorem Piece.flatMap_blanked_bare (p : Piece) : p.bare.flatMap Piece.blanked = p.blanked := by
  cases p with
  | comment t =>
    induction t with
    | nil => rfl
    | cons c t ih => simpa [Piece.bare, Piece.blanked, Piece.text] using ih
  | literal t => simp [Piece.bare]
  | plain c => simp [Piece.bare]

theorem pieces_blanks_append (t rest : List Char) : pieces (t.map blankChar ++ rest) =
    (t.map fun c => .plain (blankChar c)) ++ pieces rest := by
  induction t with
  | nil => rfl
  | cons c t ih =>
    have space : IsCut (.plain (blankChar c)) (t.map blankChar ++ rest) := by
      rcases blankChar_cases c with hc | hc <;> rw [hc] <;> exact .other (by decide) (by decide)
    rw [List.map_cons, List.cons_append, ← List.singleton_append]
    exact (pieces_of_isCut space).trans (by rw [ih]; rfl)

/-- The pieces of a text without its comments are those of the text, with a space or a line feed for
each character of a comment. -/
theorem pieces_stripComments (s : List Char) :
    pieces (stripComments s) = (pieces s).flatMap Piece.bare := by
  induction s using pieces_induction with
  | nil => simp [pieces]
  | cut p rest h ih =>
    rw [stripComments_of_isCut h, pieces_of_isCut h, List.flatMap_cons, ← ih]
    cases p with
    | comment t => exact pieces_blanks_append t _
    | literal t => exact pieces_of_isCut (h.stripComments (by simp))
    | plain c => exact pieces_of_isCut (h.stripComments (by simp))

theorem comment_notMem_pieces_stripComments (s t : List Char) :
    .comment t ∉ pieces (stripComments s) := by
  rw [pieces_stripComments, List.mem_flatMap]
  rintro ⟨p, -, hp⟩
  cases p <;> simp [Piece.bare] at hp

theorem stripComments_stripComments (s : List Char) :
    stripComments (stripComments s) = stripComments s := by
  have again (p : Piece) : p.bare.flatMap Piece.blanked = p.blanked := p.flatMap_blanked_bare
  rw [stripComments, pieces_stripComments, List.flatMap_assoc]
  simp only [again]
  rfl

theorem length_stripComments (s : List Char) : (stripComments s).length = s.length :=
  (keptOrBlank_stripComments s).length_eq.symm

theorem getElem?_stripComments {c : Char} {i : Nat} (h : s[i]? = some c) :
    (stripComments s)[i]? = some c ∨ c ≠ '\n' ∧ (stripComments s)[i]? = some ' ' := by
  obtain ⟨hi, rfl⟩ := List.getElem?_eq_some_iff.mp h
  have hj : i < (stripComments s).length := by rwa [length_stripComments]
  have pointwise : KeptOrBlank s[i] (stripComments s)[i] :=
    (keptOrBlank_stripComments s).get hi hj
  rw [List.getElem?_eq_getElem hj]
  rcases pointwise with kept | ⟨noFeed, blank⟩
  · exact .inl (congrArg some kept)
  · exact .inr ⟨noFeed, congrArg some blank⟩

/-- Whether a piece is cut off a text at an offset. -/
def IsPieceAt (s : List Char) (offset : Nat) (p : Piece) : Prop :=
  ∃ before after, pieces s = before ++ p :: after ∧ offset = (textOf before).length

/-- A piece stands in its text where it was cut off. -/
theorem IsPieceAt.take_drop {p : Piece} {offset : Nat} (h : IsPieceAt s offset p) :
    (s.drop offset).take p.text.length = p.text := by
  obtain ⟨before, after, hs, rfl⟩ := h
  have whole : s = textOf before ++ (p.text ++ textOf after) := by
    rw [← textOf_pieces s, hs, textOf_append, textOf_cons]
  rw [whole, List.drop_left, List.take_left]

/-- A literal is cut off at its offset when comments are blanked. -/
theorem IsPieceAt.stripComments {lit : List Char} {offset : Nat}
    (h : IsPieceAt s offset (.literal lit)) :
    IsPieceAt (Protobuf.stripComments s) offset (.literal lit) := by
  obtain ⟨before, after, hs, rfl⟩ := h
  refine ⟨before.flatMap Piece.bare, after.flatMap Piece.bare, ?_, ?_⟩
  · rw [pieces_stripComments, hs, List.flatMap_append, List.flatMap_cons]
    rfl
  · have sameLength (p : Piece) : (textOf p.bare).length = p.text.length := by
      cases p <;> simp [Piece.bare, Piece.text, textOf, List.length_flatMap, Function.comp_def]
    clear hs
    induction before with
    | nil => rfl
    | cons p before ih => simp [ih, sameLength p]

/-- Blanking the comments of a text moves nothing and leaves none: a character stays or, if it is no
line feed, becomes a space; a literal stays as it is and where it is; and no piece of what remains
is a comment, so blanking it again changes nothing. -/
theorem stripComments_keeps_places (s : List Char) :
    (stripComments s).length = s.length ∧
      (∀ (i : Nat) (c : Char), s[i]? = some c →
        (stripComments s)[i]? = some c ∨ c ≠ '\n' ∧ (stripComments s)[i]? = some ' ') ∧
      (∀ i lit, IsPieceAt s i (.literal lit) →
        IsPieceAt (stripComments s) i (.literal lit) ∧
          ((stripComments s).drop i).take lit.length = lit) ∧
      (∀ i t, ¬ IsPieceAt (stripComments s) i (.comment t)) ∧
      stripComments (stripComments s) = stripComments s := by
  refine ⟨length_stripComments s, fun i c => getElem?_stripComments, ?_, ?_,
    stripComments_stripComments s⟩
  · intro i lit h
    exact ⟨h.stripComments, h.stripComments.take_drop⟩
  · rintro i t ⟨before, after, hs, -⟩
    refine comment_notMem_pieces_stripComments s t ?_
    rw [hs]
    exact List.mem_append_right before List.mem_cons_self

/-- Marks of comments in a literal stay, a quote in a comment does not, and a quote that nothing
closes and a comment that nothing ends hide nothing. -/
example : stripComments "a '//' // \"b\n \"c /* d".toList =
    "a '//'      \n \"c /* d".toList := by decide +kernel

end SchemaReview.Protobuf
