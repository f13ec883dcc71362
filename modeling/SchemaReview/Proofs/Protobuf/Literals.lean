import SchemaReview.Proofs.Protobuf.Blocks
import SchemaReview.Proofs.Protobuf.Comments
import SchemaReview.Proofs.Protobuf.LikeItems

/-!
# What string literals say

Giving a string literal other contents changes nothing that is read from an interface definition, as
long as the contents have no marks of statements and blocks: the scan goes by marks wherever they
stand, also in literals.

First, the text is cut into the same pieces, but for the literal itself. What could change is which
quotes and comment marks in front of the literal stay open. An open quote is of another kind than
the literal's and finds none in the contents; but a comment that is never closed is closed by
contents with an end mark. Then, the scans of the two texts stand alike behind the literal, with one
statement or header that differs in it, and items that are alike are read alike.
-/
namespace SchemaReview.Protobuf

open Text (isBlank normalizeBlanks)

variable {quote q : Char} {s t rest content other : List Char} {before after : List Piece}
  {st st' : Scan}

/-! ### Searches that pass a literal -/

/-- Two searches for different quotes stand alike wherever they have not found them. -/
theorem seek_eq_none_or {escaped e : Bool} (h : seek q escaped s = some e) :
    seek quote escaped s = none ∨ seek quote escaped s = some e := by
  fun_induction seek q escaped s with
  | case1 => exact .inr h
  | case2 c s ih => exact ih h
  | case3 s ih => simpa [seek] using ih h
  | case4 s hc => cases h
  | case5 c s hc hq ih =>
    rw [seek, if_neg hc]
    split
    · exact .inl rfl
    · exact ih h

/-- The closing quote of a literal is not escaped. -/
theorem exists_content {body : List Char} (h : takeLiteral q s = some (body, rest)) :
    ∃ content, body = content ++ [q] ∧ seek q false content = some false := by
  induction s using takeLiteral_induction generalizing body with
  | nil => simp [takeLiteral] at h
  | last => simp [takeLiteral] at h
  | escaped c s ih =>
    obtain ⟨⟨b, r⟩, hb, he⟩ := Option.map_eq_some_iff.mp h
    cases he
    obtain ⟨content, rfl, passed⟩ := ih hb
    exact ⟨'\\' :: c :: content, rfl, passed⟩
  | plain c s hc ih =>
    rw [takeLiteral_cons hc] at h
    split at h
    · rename_i same
      cases h
      exact ⟨[], by rw [same]; rfl, rfl⟩
    · rename_i differ
      obtain ⟨⟨b, r⟩, hb, he⟩ := Option.map_eq_some_iff.mp h
      cases he
      obtain ⟨content, rfl, passed⟩ := ih hb
      exact ⟨c :: content, rfl, by rw [seek, if_neg hc, if_neg differ, passed]⟩

theorem seek_of_quiet (quiet : ∀ c ∈ other, isQuote c = false ∧ c ≠ '\\')
    (hq : isQuote quote = true) : seek quote false other = some false := by
  induction other with
  | nil => rfl
  | cons c other ih =>
    obtain ⟨plain, noEscape⟩ := quiet c List.mem_cons_self
    rw [seek, if_neg noEscape, if_neg (ne_of_isQuote hq plain).symm]
    exact ih fun d hd => quiet d (List.mem_cons_of_mem c hd)

theorem ne_backslash_of_isQuote (opens : isQuote q = true) : q ≠ '\\' := ne_of_isQuote opens rfl

/-- A search goes on unescaped behind another quote. -/
theorem seek_cons_of_ne {escaped : Bool} (opens : isQuote q = true) (differ : quote ≠ q)
    (s : List Char) : seek quote escaped (q :: s) = seek quote false s := by
  cases escaped with
  | true => rfl
  | false => rw [seek, if_neg (ne_backslash_of_isQuote opens), if_neg differ.symm]

theorem seek_of_cons {escaped : Bool} (opens : isQuote q = true)
    (h : (seek quote escaped (q :: s)).isSome) : (seek quote false s).isSome := by
  by_cases same : quote = q
  · subst same
    cases escaped with
    | true => exact h
    | false =>
      rw [seek, if_neg (ne_backslash_of_isQuote opens), if_pos rfl] at h
      cases h
  · rwa [seek_cons_of_ne opens same] at h

/-- A search that passes a literal is for another quote, and goes on unescaped. -/
theorem seek_of_literal {escaped : Bool} (opens : isQuote q = true)
    (passed : seek q false content = some false)
    (h : (seek quote escaped (q :: (content ++ [q]) ++ s)).isSome) :
    quote ≠ q ∧ (seek quote false s).isSome := by
  have inner : (seek quote false (content ++ q :: s)).isSome :=
    seek_of_cons opens (by simpa using h)
  rw [seek_append] at inner
  have searched : seek quote false content = none ∨ seek quote false content = some false :=
    seek_eq_none_or passed
  rcases searched with found | passed
  · simp [found] at inner
  · rw [passed, Option.bind_some] at inner
    have differ : quote ≠ q := by
      rintro rfl
      rw [seek, if_neg (ne_backslash_of_isQuote opens), if_pos rfl] at inner
      cases inner
    exact ⟨differ, seek_of_cons opens inner⟩

/-- Such a search passes other contents as well. -/
theorem seek_literal {escaped : Bool} (opens : isQuote q = true) (hq : isQuote quote = true)
    (quiet : ∀ c ∈ other, isQuote c = false ∧ c ≠ '\\') (differ : quote ≠ q) :
    seek quote escaped (q :: (other ++ [q]) ++ s) = seek quote false s := by
  have text : q :: (other ++ [q]) ++ s = q :: (other ++ q :: s) := by simp
  rw [text, seek_cons_of_ne opens differ, seek_append, seek_of_quiet quiet hq, Option.bind_some,
    seek_cons_of_ne opens differ]

/-- No quote is part of the end mark of a block comment. -/
theorem endMark_infix_append_iff (opens : isQuote q = true) :
    endMark <:+: s ++ q :: t ↔ endMark <:+: s ∨ endMark <:+: t := by
  have star : q ≠ '*' := ne_of_isQuote opens rfl
  have slash : q ≠ '/' := ne_of_isQuote opens rfl
  induction s with
  | nil =>
    rw [List.nil_append, List.infix_cons_iff, endMark_isPrefix_iff]
    simp [star, endMark]
  | cons c s ih =>
    have front : (∃ u, s ++ q :: t = '/' :: u) ↔ ∃ u, s = '/' :: u := by
      cases s with
      | nil => simp [slash]
      | cons d s => simp
    rw [List.cons_append, List.infix_cons_iff, List.infix_cons_iff, endMark_isPrefix_iff,
      endMark_isPrefix_iff, front, or_assoc]
    exact or_congr_right ih

/-! ### The pieces around a literal -/

theorem isCut_of_pieces_cons {p : Piece} {ps : List Piece} (h : pieces s = p :: ps) :
    ∃ rest, s = p.text ++ rest ∧ pieces rest = ps ∧ IsCut p rest := by
  cases s with
  | nil => simp [pieces] at h
  | cons c s =>
    rw [pieces] at h
    obtain ⟨rfl, rfl⟩ := List.cons.inj h
    exact ⟨_, (firstPiece_append c s).symm, rfl, isCut_firstPiece c s⟩

theorem isCut_of_pieces_append {p : Piece} (h : pieces s = before ++ p :: after) :
    IsCut p (textOf after) ∧ pieces (textOf after) = after := by
  induction before generalizing s with
  | nil =>
    obtain ⟨rest, -, tail, first⟩ := isCut_of_pieces_cons h
    rw [← tail, textOf_pieces]
    exact ⟨first, rfl⟩
  | cons p' before ih =>
    obtain ⟨rest, -, tail, -⟩ := isCut_of_pieces_cons h
    exact ih tail

/-- What a literal that is cut off looks like. -/
theorem IsCut.literal_cases {lit : List Char} (h : IsCut (.literal lit) rest) :
    ∃ q content, isQuote q = true ∧ lit = q :: (content ++ [q]) ∧
      seek q false content = some false := by
  cases h with
  | literal opens closed =>
    obtain ⟨content, rfl, passed⟩ := exists_content (closed [])
    exact ⟨_, content, opens, rfl, passed⟩

/-- Whether a block comment opens among pieces and is never closed. -/
def HasOpenComment (ps : List Piece) : Prop := [Piece.plain '/', .plain '*'] <:+: ps

/-- A piece in front of a literal is cut off as well when the literal gets other contents. -/
theorem IsCut.literal_replaced {p : Piece} {u v : List Char} (opens : isQuote q = true)
    (passed : seek q false content = some false)
    (h : IsCut p (u ++ (q :: (content ++ [q]) ++ v)))
    (quiet : ∀ c ∈ other, isQuote c = false ∧ c ≠ '\\')
    (noEnd : p = .plain '/' → (∃ w, u = '*' :: w) → ¬ endMark <:+: other) :
    IsCut p (u ++ (q :: (other ++ [q]) ++ v)) := by
  cases h with
  | literal opens' closed => exact .literal opens' closed
  | line within ends =>
    cases u with
    | nil =>
      have feed : q = '\n' := by simpa using ends
      exact absurd feed (ne_of_isQuote opens rfl)
    | cons c u =>
      have feed : c = '\n' := by simpa using ends
      exact .line within (.inr ⟨_, by rw [feed]; rfl⟩)
  | block closed => exact .block closed
  | quote opens' unclosed =>
    refine .quote opens' ?_
    rw [seek_append] at unclosed ⊢
    cases reached : seek _ false u with
    | none => simp [reached] at unclosed
    | some e =>
      rw [reached, Option.bind_some] at unclosed
      obtain ⟨differ, rest⟩ := seek_of_literal opens passed unclosed
      rwa [Option.bind_some, seek_literal opens opens' quiet differ]
  | slash noLine noBlock =>
    cases u with
    | nil =>
      have slash : q ≠ '/' := ne_of_isQuote opens rfl
      have star : q ≠ '*' := ne_of_isQuote opens rfl
      exact .slash (by simp [slash]) (by simp [star])
    | cons c u =>
      refine .slash ?_ ?_
      · intro t ht
        exact noLine _ (congrArg (· :: _) (List.cons.inj ht).1)
      · intro t ht found
        obtain ⟨rfl, rfl⟩ := List.cons.inj ht
        have before : ¬ endMark <:+: u ++ (q :: (content ++ [q]) ++ v) := noBlock _ rfl
        have text (m : List Char) :
            u ++ (q :: (m ++ [q]) ++ v) = u ++ q :: (m ++ q :: v) := by simp
        change endMark <:+: u ++ (q :: (other ++ [q]) ++ v) at found
        rw [text, endMark_infix_append_iff opens, endMark_infix_append_iff opens] at before found
        have inside := noEnd rfl ⟨u, rfl⟩
        tauto
  | other noQuote noSlash => exact .other noQuote noSlash

/-- A text that starts with a star has the star as its first piece. -/
theorem pieces_star (s : List Char) : pieces ('*' :: s) = .plain '*' :: pieces s :=
  pieces_of_isCut (p := .plain '*') (.other rfl (by decide))

theorem takeLiteral_of_quiet (opens : isQuote q = true)
    (quiet : ∀ c ∈ other, isQuote c = false ∧ c ≠ '\\') (t : List Char) :
    takeLiteral q (other ++ [q] ++ t) = some (other ++ [q], t) := by
  induction other with
  | nil => simp [takeLiteral_cons (ne_backslash_of_isQuote opens)]
  | cons c other ih =>
    obtain ⟨plain, noEscape⟩ := quiet c List.mem_cons_self
    rw [List.cons_append, List.cons_append, takeLiteral_cons noEscape,
      if_neg (ne_of_isQuote opens plain).symm,
      ih fun d hd => quiet d (List.mem_cons_of_mem c hd)]
    rfl

/-- Giving a literal other contents, without quotes and backslashes, changes no other piece, unless
the contents end a comment that is open in front of it. -/
theorem pieces_literal_replaced
    (cut : pieces s = before ++ .literal (q :: (content ++ [q])) :: after)
    (quiet : ∀ c ∈ other, isQuote c = false ∧ c ≠ '\\')
    (noEnd : HasOpenComment before → ¬ endMark <:+: other) :
    pieces (textOf before ++ (q :: (other ++ [q]) ++ textOf after)) =
      before ++ .literal (q :: (other ++ [q])) :: after := by
  obtain ⟨literal, behind⟩ := isCut_of_pieces_append cut
  obtain ⟨q', content', opens, same, passed⟩ := literal.literal_cases
  obtain ⟨rfl, same⟩ := List.cons.inj same
  obtain rfl := List.append_cancel_right same
  clear literal same
  induction before generalizing s with
  | nil =>
    have again : IsCut (.literal (q :: (other ++ [q]))) (textOf after) :=
      .literal opens (takeLiteral_of_quiet opens quiet)
    exact (pieces_of_isCut again).trans (by rw [behind]; rfl)
  | cons p before ih =>
    obtain ⟨rest, -, tail, first⟩ := isCut_of_pieces_cons cut
    have noEnd' : HasOpenComment before → ¬ endMark <:+: other :=
      fun h => noEnd (h.trans (List.suffix_cons p before).isInfix)
    have text : rest = textOf before ++ (q :: (content ++ [q]) ++ textOf after) := by
      rw [← textOf_pieces rest, tail]
      simp [Piece.text]
    have replaced : IsCut p (textOf before ++ (q :: (other ++ [q]) ++ textOf after)) := by
      refine IsCut.literal_replaced opens passed (text ▸ first) quiet ?_
      rintro rfl ⟨w, star⟩
      refine noEnd ?_
      -- the star is a piece of its own, so it stands right behind the slash
      rw [text, star, List.cons_append, pieces_star] at tail
      cases before with
      | nil => cases (List.cons.inj tail).1
      | cons p before =>
        rw [← (List.cons.inj tail).1]
        exact ⟨[], before, rfl⟩
    have whole := pieces_of_isCut replaced
    rw [ih tail noEnd'] at whole
    simpa using whole

/-! ### Scans that stand alike -/

/-- The syntax level that top-level items give, the last one first. -/
def syntaxOf (items : List Item) : Option String := topLevelValue? syntaxValue? items.reverse

/-- Whether the items of the blocks that are open are alike, from the innermost on, and the
top-level ones give one syntax level. -/
inductive LevelsAlike : List Item → List OpenBlock → List Item → List OpenBlock → Prop
  | top {xs ys : List Item} (items : ItemsAlike xs ys) (level : syntaxOf xs = syntaxOf ys) :
      LevelsAlike xs [] ys []
  | inside {xs ys : List Item} {b b' : OpenBlock} {outer outer' : List OpenBlock}
      (items : ItemsAlike xs ys) (header : TextAlike b.header b'.header)
      (around : LevelsAlike b.items outer b'.items outer') :
      LevelsAlike xs (b :: outer) ys (b' :: outer')

theorem LevelsAlike.refl (items : List Item) (stack : List OpenBlock) :
    LevelsAlike items stack items stack := by
  induction stack generalizing items with
  | nil => exact .top (.refl items) rfl
  | cons b outer ih => exact .inside (.refl items) (.inl rfl) (ih b.items)

theorem syntaxOf_cons (x : Item) (xs : List Item) :
    syntaxOf (x :: xs) = (syntaxOf xs).or (syntaxOf [x]) := by
  rw [syntaxOf, List.reverse_cons, topLevelValue?, List.findSome?_append]
  rfl

/-- Levels stay alike with one more item each, if these give one syntax level. -/
theorem LevelsAlike.add {xs ys : List Item} {stack stack' : List OpenBlock} {x y : Item}
    (h : LevelsAlike xs stack ys stack') (item : x.Alike y)
    (level : stack = [] → syntaxOf xs = none → syntaxOf [x] = syntaxOf [y]) :
    LevelsAlike (x :: xs) stack (y :: ys) stack' := by
  cases h with
  | top items same =>
    refine .top (.cons item items) ?_
    rw [syntaxOf_cons x, syntaxOf_cons y, ← same]
    cases given : syntaxOf xs with
    | none => rw [level rfl given]
    | some value => rfl
  | inside items header around => exact .inside (.cons item items) header around

/-- Whether two scans stand alike, wherever they stand. -/
structure Scan.Alike (st st' : Scan) : Prop where
  levels : LevelsAlike st.items st.stack st'.items st'.stack
  pending : st.pending = st'.pending

/-- A mark closes the text before it, and scans over texts that are alike stand alike behind it. -/
theorem Scan.step_mark {c : Char} (mark : isMark c = true)
    (levels : LevelsAlike st.items st.stack st'.items st'.stack) (text : TextAlike st.text st'.text)
    (level : c = ';' → st.stack = [] → syntaxOf st.items = none →
      syntaxOf [.statement st.text 0] = syntaxOf [.statement st'.text 0]) (i j : Nat) :
    EndAlike (fun e f => e.fault = f.fault) Scan.Alike (st.step c i) (st'.step c j) := by
  simp only [isMark, Bool.or_eq_true, beq_iff_eq] at mark
  rcases mark with (rfl | rfl) | rfl
  · have empty : st.text.isEmpty = st'.text.isEmpty := by
      refine text.eq_of fun same => ?_
      rw [List.isEmpty_eq_false_iff.mpr same.ne_nil.1, List.isEmpty_eq_false_iff.mpr same.ne_nil.2]
    refine .ok ⟨?_, rfl⟩
    dsimp only
    rw [empty]
    split
    · exact levels
    · exact levels.add (.statement text) (level rfl)
  · exact .ok ⟨.inside .nil text levels, rfl⟩
  · obtain ⟨items, stack, pending, start⟩ := st
    obtain ⟨items', stack', pending', start'⟩ := st'
    cases levels with
    | top => exact .error rfl
    | inside inner header around =>
      refine .ok ⟨around.add (.block header ?_) fun _ _ => rfl, rfl⟩
      exact List.forall₂_reverse_iff.mpr inner

theorem Scan.step_alike (h : st.Alike st') (c : Char) (i j : Nat) :
    EndAlike (fun e f => e.fault = f.fault) Scan.Alike (st.step c i) (st'.step c j) := by
  cases mark : isMark c with
  | false =>
    rw [Scan.step_of_not_mark mark, Scan.step_of_not_mark mark]
    exact .ok ⟨h.levels, by rw [h.pending]⟩
  | true =>
    have text : st.text = st'.text := by rw [Scan.text, h.pending, Scan.text]
    exact Scan.step_mark mark h.levels (.inl text) (fun _ _ _ => by rw [text]) i j

theorem Scan.run_alike (h : st.Alike st') (s : List Char) (i j : Nat) :
    EndAlike (fun e f => e.fault = f.fault) Scan.Alike (st.run s i) (st'.run s j) := by
  induction s generalizing st st' i j with
  | nil => exact .ok h
  | cons c s ih =>
    rw [Scan.run, Scan.run]
    obtain ⟨e, f, he, hf, same⟩ | ⟨next, next', hn, hn', alike⟩ := (Scan.step_alike h c i j).cases
    · rw [he, hf]
      exact .error same
    · rw [hn, hn']
      exact ih alike (i + 1) (j + 1)

/-! ### A scan over a literal -/

/-- Whether a literal between two texts is the value of the syntax statement: at the top level, and
if none before it gives a syntax level, it stands alone behind the keyword and the sign. -/
def IsSyntaxValue (before after : List Char) : Prop :=
  ∃ st gap rest, Scan.run {} before 0 = .ok st ∧ st.stack = [] ∧ syntaxOf st.items = none ∧
    (st.text = "syntax =".toList ∨ st.text = "syntax=".toList) ∧
    (∀ c ∈ gap, isBlank c = true) ∧ after = gap ++ ';' :: rest

/-- The scan behind a literal and the text that follows it, up to the next mark. -/
theorem Scan.run_over_literal {content a : List Char} (opens : isQuote q = true)
    (plain : ∀ c ∈ content, isMark c = false) (quiet : ∀ c ∈ a, isMark c = false) (st : Scan)
    (rest : List Char) (i : Nat) :
    ∃ j pending, pending.reverse = st.pending.reverse ++ q :: (content ++ q :: a) ∧
      st.run (q :: (content ++ [q]) ++ (a ++ rest)) i =
        Scan.run { st with pending := pending } rest j := by
  have noMark : isMark q = false := by rcases isQuote_cases opens with rfl | rfl <;> rfl
  have all : ∀ c ∈ q :: (content ++ q :: a), isMark c = false := by
    simpa [or_imp, forall_and, noMark] using ⟨plain, quiet⟩
  have text : q :: (content ++ [q]) ++ (a ++ rest) = q :: (content ++ q :: a) ++ rest := by simp
  refine ⟨i + (q :: (content ++ q :: a)).length,
    (q :: (content ++ q :: a)).reverse ++ st.pending, by simp, ?_⟩
  rw [text, Scan.run_append, Scan.run_of_no_mark all, Except.bind]

/-- The text of a literal with one or the other contents, as the reader sees it. -/
theorem textAlike_literal (opens : isQuote q = true) (s a content other : List Char) :
    TextAlike (normalizeBlanks (s ++ q :: (content ++ q :: a)))
      (normalizeBlanks (s ++ q :: (other ++ q :: a))) := by
  obtain ⟨gap, rest, -, -, parts⟩ :=
    Text.exists_normalizeBlanks_between (isBlank_noQuotePasses q opens) s a
  obtain ⟨m, hm⟩ := parts content
  obtain ⟨n, hn⟩ := parts other
  rw [hm, hn]
  refine .inr (.mk _ opens ?_)
  have last (m : List Char) : (q :: (m ++ q :: rest)).getLast? = (q :: rest).getLast? := by
    rw [← List.cons_append, List.getLast?_append_of_ne_nil _ (List.cons_ne_nil q rest)]
  rw [last, last]

/-- A statement with a literal gives a syntax level only if the literal stands alone behind the
keyword and the sign. -/
theorem syntaxValue?_literal (opens : isQuote q = true) {s a content value : List Char}
    (h : syntaxValue? (normalizeBlanks (s ++ q :: (content ++ q :: a))) = some value) :
    (normalizeBlanks s = "syntax =".toList ∨ normalizeBlanks s = "syntax=".toList) ∧
      ∀ c ∈ a, isBlank c = true := by
  obtain ⟨gap, rest, small, none, parts⟩ :=
    Text.exists_normalizeBlanks_between (isBlank_noQuotePasses q opens) s a
  obtain ⟨m, hm⟩ := parts content
  rw [hm] at h
  obtain ⟨alone, g, g', blank, blank', front⟩ := front_of_syntaxValue? opens h
  have behind : ∀ c ∈ gap, isBlank c = true := by
    rcases small with rfl | rfl <;> simp [isBlank]
  exact ⟨normalizeBlanks_of_syntaxLine blank blank' front behind, none alone⟩

theorem Scan.run_literal {content other : List Char} (opens : isQuote q = true)
    (plain : ∀ c ∈ content, isMark c = false) (plain' : ∀ c ∈ other, isMark c = false)
    (after : List Char) (st : Scan)
    (noSyntax : st.stack = [] → syntaxOf st.items = none →
      (st.text = "syntax =".toList ∨ st.text = "syntax=".toList) →
      ∀ gap rest, (∀ c ∈ gap, isBlank c = true) → after ≠ gap ++ ';' :: rest) (i : Nat) :
    EndAlike (fun e f => e.fault = f.fault)
      (fun st st' => LevelsAlike st.items st.stack st'.items st'.stack)
      (st.run (q :: (content ++ [q]) ++ after) i) (st.run (q :: (other ++ [q]) ++ after) i) := by
  have whole :
      after = after.takeWhile (fun c => !isMark c) ++ after.dropWhile (fun c => !isMark c) :=
    List.takeWhile_append_dropWhile.symm
  have quiet : ∀ c ∈ after.takeWhile (fun c => !isMark c), isMark c = false := by
    intro c hc
    simpa using List.mem_takeWhile_imp hc
  have stops := List.head?_dropWhile_not (fun c => !isMark c) after
  generalize after.takeWhile (fun c => !isMark c) = a at whole quiet
  generalize after.dropWhile (fun c => !isMark c) = rest at whole stops
  subst whole
  obtain ⟨j, pending, hp, ran⟩ := Scan.run_over_literal opens plain quiet st rest i
  obtain ⟨j', pending', hp', ran'⟩ := Scan.run_over_literal opens plain' quiet st rest i
  rw [ran, ran']
  cases rest with
  | nil => exact .ok (.refl _ _)
  | cons c rest =>
    have mark : isMark c = true := by simpa using stops
    have text : TextAlike (Scan.text { st with pending := pending })
        (Scan.text { st with pending := pending' }) := by
      rw [Scan.text, Scan.text, hp, hp']
      exact textAlike_literal opens _ a content other
    have level : c = ';' → st.stack = [] → syntaxOf st.items = none →
        syntaxOf [.statement (Scan.text { st with pending := pending }) 0] =
          syntaxOf [.statement (Scan.text { st with pending := pending' }) 0] := by
      rintro rfl top unset
      have unread (m : List Char) :
          syntaxValue? (normalizeBlanks (st.pending.reverse ++ q :: (m ++ q :: a))) = none := by
        by_contra given
        obtain ⟨value, given⟩ := Option.ne_none_iff_exists'.mp given
        obtain ⟨front, blank⟩ := syntaxValue?_literal opens given
        exact noSyntax top unset front a rest blank rfl
      have none (m : List Char) (p : List Char)
          (hp : p.reverse = st.pending.reverse ++ q :: (m ++ q :: a)) :
          syntaxOf [.statement (Scan.text { st with pending := p }) 0] = none := by
        simp [syntaxOf, topLevelValue?, Scan.text, hp, unread m]
      rw [none content pending hp, none other pending' hp']
    rw [Scan.run, Scan.run]
    have stepped := @Scan.step_mark { st with pending := pending } { st with pending := pending' } c
      mark (.refl st.items st.stack) text level j j'
    obtain ⟨e, f, he, hf, same⟩ | ⟨next, next', hn, hn', alike⟩ := stepped.cases
    · rw [he, hf]
      exact .error same
    · rw [hn, hn']
      exact (Scan.run_alike alike rest _ _).mono fun _ _ h => h.levels

/-- The items around a literal with one or the other contents. -/
theorem scan_literal {before after content other : List Char} (opens : isQuote q = true)
    (plain : ∀ c ∈ content, isMark c = false) (plain' : ∀ c ∈ other, isMark c = false)
    (noSyntax : ¬ IsSyntaxValue before after) :
    EndAlike (fun e f => e.fault = f.fault)
      (fun xs ys => ItemsAlike xs ys ∧
        topLevelValue? syntaxValue? xs = topLevelValue? syntaxValue? ys)
      (scan (before ++ (q :: (content ++ [q]) ++ after)))
      (scan (before ++ (q :: (other ++ [q]) ++ after))) := by
  unfold scan
  rw [Scan.run_append, Scan.run_append]
  cases ran : Scan.run {} before 0 with
  | error e => exact .error rfl
  | ok st =>
    have run := Scan.run_literal opens plain plain' after st
      (fun top unset front gap rest blank whole =>
        noSyntax ⟨st, gap, rest, ran, top, unset, front, blank, whole⟩) (0 + before.length)
    dsimp only [Except.bind]
    obtain ⟨e, f, he, hf, same⟩ | ⟨last, last', hl, hl', levels⟩ := run.cases
    · rw [he, hf]
      exact .error same
    · rw [hl, hl']
      obtain ⟨items, stack, pending, start⟩ := last
      obtain ⟨items', stack', pending', start'⟩ := last'
      cases levels with
      | top items level => exact .ok ⟨List.forall₂_reverse_iff.mpr items, level⟩
      | inside => exact .error rfl

/-! ### Texts with other literals -/

theorem stripComments_literal {lit : List Char} {before after : List Piece}
    (cut : pieces s = before ++ .literal lit :: after) :
    stripComments s =
      before.flatMap Piece.blanked ++ (lit ++ after.flatMap Piece.blanked) := by
  rw [stripComments, cut, List.flatMap_append, List.flatMap_cons]
  rfl

theorem isBlankText_of_mem {text : String} (opens : isQuote q = true) (h : q ∈ text.toList) :
    Text.isBlankText text = false := by
  rw [Text.isBlankText, List.all_eq_false]
  exact ⟨q, h, by simp [isBlank_noQuotePasses q opens]⟩

/-- Whether two documents are equal. The texts that fields were read from take no part in it. -/
def DocumentsAlike (d d' : Document) : Prop :=
  ∃ root, d' = { d with root := root } ∧ d.root.same root = true

/-- Whether a text is another one in which a literal, not the value of the syntax statement, has got
other contents without quotes and backslashes. -/
structure IsReplacement (text text' : String) (before after : List Piece) (q : Char)
    (content other : List Char) : Prop where
  cut : pieces text.toList = before ++ .literal (q :: (content ++ [q])) :: after
  replaced : text'.toList = textOf before ++ (q :: (other ++ [q]) ++ textOf after)
  quiet : ∀ c ∈ other, isQuote c = false ∧ c ≠ '\\'
  noSyntax : ¬ IsSyntaxValue (before.flatMap Piece.blanked) (after.flatMap Piece.blanked)

/-- What a literal says does not matter if it has no marks of statements and blocks and ends no
comment that is open in front of it: both texts are rejected for one reason at one path, or they
give equal documents. -/
theorem ofText_literal_replaced {text text' : String} {before after : List Piece}
    {content other : List Char} (h : IsReplacement text text' before after q content other)
    (plain : ∀ c ∈ content ++ other, isMark c = false)
    (noEnd : HasOpenComment before → ¬ endMark <:+: other) :
    EndAlike SameFault DocumentsAlike (ofText text) (ofText text') := by
  have opens : isQuote q = true := by
    obtain ⟨q', _, opens, same, -⟩ := (isCut_of_pieces_append h.cut).1.literal_cases
    rwa [(List.cons.inj same).1]
  have cut : pieces text'.toList = before ++ .literal (q :: (other ++ [q])) :: after := by
    rw [h.replaced]
    exact pieces_literal_replaced h.cut h.quiet noEnd
  have written : Text.isBlankText text = false := by
    refine isBlankText_of_mem opens ?_
    rw [← textOf_pieces text.toList, h.cut]
    simp [Piece.text]
  have written' : Text.isBlankText text' = false := by
    refine isBlankText_of_mem opens ?_
    rw [h.replaced]
    simp
  have scans := scan_literal opens (fun c hc => plain c (List.mem_append_left other hc))
    (fun c hc => plain c (List.mem_append_right content hc)) h.noSyntax
  rw [← stripComments_literal h.cut, ← stripComments_literal cut] at scans
  unfold ofText
  dsimp only
  rw [if_neg (by simp [written]), if_neg (by simp [written'])]
  obtain ⟨e, f, he, hf, same⟩ | ⟨xs, ys, hx, hy, items, level⟩ := scans.cases
  · rw [he, hf]
    exact .error ⟨congrArg ParseFault.protobuf same, rfl⟩
  · rw [hx, hy]
    simp only [pure_bind]
    rw [← level, ← packageName_alike items]
    refine (declarationsOf_alike items _ none .nil).bind fun fs gs fields => ?_
    refine .ok ⟨_, rfl, Schema.same_iff.mpr ?_⟩
    exact {
      kind := rfl, name := rfl, qualifier := rfl, documentation := rfl
      fields := fields
      typeName := rfl, logicalType := rfl, size := rfl, symbols := rfl, symbolValues := rfl
      items := .none, values := .none, members := .nil
      additionalProperties := rfl }

/-- The pieces of a text without literals and comments. -/
def plainPieces (text : String) : List Piece := text.toList.map .plain

/-- The option of a field. -/
theorem ofText_literal_replaced_option :
    IsReplacement "message M\x7bint32 a=1[b=\"x\"];\x7d" "message M\x7bint32 a=1[b=\"// y\"];\x7d"
      (plainPieces "message M\x7bint32 a=1[b=") (plainPieces "];\x7d") '"' ['x']
      ['/', '/', ' ', 'y'] ∧
    ∃ d d', ofText "message M\x7bint32 a=1[b=\"x\"];\x7d" = .ok d ∧
      ofText "message M\x7bint32 a=1[b=\"// y\"];\x7d" = .ok d' ∧ DocumentsAlike d d' := by
  have inside : Scan.run {} ((plainPieces "message M\x7bint32 a=1[b=").flatMap Piece.blanked) 0 =
      .ok ⟨[], [⟨"message M".toList, 9, []⟩], "int32 a=1[b=".toList.reverse, 10⟩ := rfl
  have replacement : IsReplacement "message M\x7bint32 a=1[b=\"x\"];\x7d"
      "message M\x7bint32 a=1[b=\"// y\"];\x7d" (plainPieces "message M\x7bint32 a=1[b=")
      (plainPieces "];\x7d") '"' ['x'] ['/', '/', ' ', 'y'] := {
    cut := by decide +kernel
    replaced := by decide +kernel
    quiet := by simp [isQuote]
    noSyntax := by
      rintro ⟨st, _, _, ran, top, -⟩
      rw [inside] at ran
      cases ran
      cases top }
  refine ⟨replacement, ?_⟩
  have alike := ofText_literal_replaced replacement (by simp [isMark]) fun _ => by decide
  obtain ⟨e, f, he, -, -⟩ | ⟨d, d', hd, hd', same⟩ := alike.cases
  · have accepted : (ofText "message M\x7bint32 a=1[b=\"x\"];\x7d").toBool = true := by
      decide +kernel
    rw [he] at accepted
    cases accepted
  · exact ⟨d, d', hd, hd', same⟩

/-- A mark in a literal is taken for the end of a block, so that a text is rejected, and an end mark
in a literal ends a comment that is open, so that a message is lost in another one. -/
theorem ofText_literal_mark :
    (IsReplacement "option a=\"x\";" "option a=\"\x7d\";" (plainPieces "option a=")
        (plainPieces ";") '"' ['x'] ['\x7d'] ∧
      ¬ EndAlike (fun _ _ => True) DocumentsAlike (ofText "option a=\"x\";")
        (ofText "option a=\"\x7d\";")) ∧
    (IsReplacement "/*\"x\";option b=\"//\";message M\x7b\x7d"
        "/*\"*/\";option b=\"//\";message M\x7b\x7d" (plainPieces "/*")
        (plainPieces ";option b=" ++ .literal "\"//\"".toList :: plainPieces ";message M\x7b\x7d")
        '"' ['x'] ['*', '/'] ∧
      ¬ EndAlike (fun _ _ => True) DocumentsAlike
        (ofText "/*\"x\";option b=\"//\";message M\x7b\x7d")
        (ofText "/*\"*/\";option b=\"//\";message M\x7b\x7d")) := by
  refine ⟨⟨?_, ?_⟩, ?_, ?_⟩
  · have front : Scan.run {} ((plainPieces "option a=").flatMap Piece.blanked) 0 =
        .ok { pending := "option a=".toList.reverse } := rfl
    exact {
      cut := by decide +kernel
      replaced := by decide +kernel
      quiet := by simp [isQuote]
      noSyntax := by
        rintro ⟨st, _, _, ran, -, -, words, -⟩
        rw [front] at ran
        cases ran
        revert words
        decide +kernel }
  · intro alike
    have accepted : (ofText "option a=\"x\";").toBool = true := by decide +kernel
    have rejected : (ofText "option a=\"\x7d\";").toBool = false := by decide +kernel
    obtain ⟨e, _, he, -, -⟩ | ⟨_, d', -, hd', -⟩ := alike.cases
    · rw [he] at accepted
      cases accepted
    · rw [hd'] at rejected
      cases rejected
  · have front : Scan.run {} ((plainPieces "/*").flatMap Piece.blanked) 0 =
        .ok { pending := "/*".toList.reverse } := rfl
    exact {
      cut := by decide +kernel
      replaced := by decide +kernel
      quiet := by simp [isQuote]
      noSyntax := by
        rintro ⟨st, _, _, ran, -, -, words, -⟩
        rw [front] at ran
        cases ran
        revert words
        decide +kernel }
  · intro alike
    have one : (ofText "/*\"x\";option b=\"//\";message M\x7b\x7d").toOption.map
        (fun d => d.root.fields.length) = some 1 := by decide +kernel
    have none : (ofText "/*\"*/\";option b=\"//\";message M\x7b\x7d").toOption.map
        (fun d => d.root.fields.length) = some 0 := by decide +kernel
    obtain ⟨e, _, he, -, -⟩ | ⟨d, d', hd, hd', root, rfl, same⟩ := alike.cases
    · rw [he] at one
      cases one
    · rw [hd] at one
      rw [hd'] at none
      have lengths := (Schema.same_iff.mp same).fields.length_eq
      simp only [Except.toOption, Option.map_some, Option.some.injEq] at one none
      omega

end SchemaReview.Protobuf
