import SchemaReview.Proofs.Number.Decimal

/-!
# The text of a signature

A signature is a word, possibly followed by what it holds in brackets of its own. The word ends at
the first bracket or separator and the character there says which of the forms it is, so a text is
the signature of one description only, and it is clear where it ends. It is so too where a union has
no members or a fixed type no size, so the signatures of the members of a union are told apart.
-/
namespace SchemaReview

/-- The characters that end a word in a signature. -/
def delimiters : List Char := ['<', '>', '[', ']', '(', ')', ',', ':']

/-- Whether a text is free of the characters that end a word. -/
def IsWord (text : String) : Prop := ∀ c ∈ text.toList, c ∉ delimiters

instance (text : String) : Decidable (IsWord text) :=
  List.decidableBAll (fun c => c ∉ delimiters) text.toList

/-- What a signature describes: a word alone, a word with a logical type, a fixed type, an array, a
map, or a union, which has at least one member. -/
inductive Signature where
  | word (w : String)
  | logical (w text : String)
  | fixed (name : String) (size : Int)
  | array (inner : Signature)
  | map (inner : Signature)
  | union (first : Signature) (rest : List Signature)

namespace Signature

/-- The word that a signature starts with. -/
def head : Signature → String
  | .word w | .logical w _ => w
  | .fixed .. => "fixed"
  | .array _ => "array"
  | .map _ => "map"
  | .union .. => "union"

mutual

/-- The text of a signature. -/
def render : Signature → List Char
  | .word w => w.toList
  | .logical w text => w.toList ++ '(' :: (text.toList ++ [')'])
  | .fixed name size =>
    "fixed".toList ++ ':' :: (name.toList ++ '[' :: ((toString size).toList ++ [']']))
  | .array inner => "array".toList ++ '<' :: (inner.render ++ ['>'])
  | .map inner => "map".toList ++ '<' :: (inner.render ++ ['>'])
  | .union first rest => "union".toList ++ '[' :: (first.render ++ renderRest rest)

/-- The text of a union after its first member. -/
def renderRest : List Signature → List Char
  | [] => [']']
  | next :: rest => ',' :: (next.render ++ renderRest rest)

end

mutual

/-- Whether the parts of a signature keep to the characters that they may have. -/
def IsWellFormed : Signature → Prop
  | .word w => IsWord w
  | .logical w text => IsWord w ∧ ')' ∉ text.toList
  | .fixed name _ => IsWord name
  | .array inner | .map inner => inner.IsWellFormed
  | .union first rest => first.IsWellFormed ∧ AreWellFormed rest

/-- Whether all of some signatures are well-formed. -/
def AreWellFormed : List Signature → Prop
  | [] => True
  | next :: rest => next.IsWellFormed ∧ AreWellFormed rest

end

/-- Whether what follows a signature cannot belong to it. -/
def Stops : List Char → Prop
  | [] => True
  | c :: _ => c = ',' ∨ c = '>' ∨ c = ']'

/-- Whether a text is at the end of a word. -/
def EndsWord : List Char → Prop
  | [] => True
  | c :: _ => c ∈ delimiters

theorem Stops.endsWord {a : List Char} (h : Stops a) : EndsWord a := by
  cases a with
  | nil => trivial
  | cons c rest =>
    obtain rfl | rfl | rfl := h <;> simp [EndsWord, delimiters]

/-- A word is all that stands before the first delimiter. -/
theorem word_unique {u v a b : List Char} (hu : ∀ c ∈ u, c ∉ delimiters)
    (hv : ∀ c ∈ v, c ∉ delimiters) (ha : EndsWord a) (hb : EndsWord b) (h : u ++ a = v ++ b) :
    u = v ∧ a = b := by
  induction u generalizing v with
  | nil =>
    cases v with
    | nil => exact ⟨rfl, h⟩
    | cons c v =>
      rw [List.nil_append] at h
      subst h
      exact absurd ha (hv c List.mem_cons_self)
  | cons c u ih =>
    rw [List.forall_mem_cons] at hu
    cases v with
    | nil =>
      rw [List.nil_append] at h
      subst h
      exact absurd hb hu.1
    | cons d v =>
      rw [List.forall_mem_cons] at hv
      obtain ⟨rfl, hrest⟩ := List.cons.inj h
      obtain ⟨rfl, rfl⟩ := ih hu.2 hv.2 hrest
      exact ⟨rfl, rfl⟩

/-- What is free of a character ends at its first occurrence. -/
theorem before_unique {stop : Char} {u v a b : List Char} (hu : stop ∉ u) (hv : stop ∉ v)
    (h : u ++ stop :: a = v ++ stop :: b) : u = v ∧ a = b := by
  induction u generalizing v with
  | nil =>
    cases v with
    | nil => exact ⟨rfl, (List.cons.inj h).2⟩
    | cons c v =>
      obtain ⟨rfl, -⟩ := List.cons.inj h
      exact absurd List.mem_cons_self hv
  | cons c u ih =>
    rw [List.mem_cons, not_or] at hu
    cases v with
    | nil =>
      obtain ⟨rfl, -⟩ := List.cons.inj h
      exact absurd rfl hu.1
    | cons d v =>
      rw [List.mem_cons, not_or] at hv
      obtain ⟨rfl, hrest⟩ := List.cons.inj h
      obtain ⟨rfl, rfl⟩ := ih hu.2 hv.2 hrest
      exact ⟨rfl, rfl⟩

/-- What stands in a signature after its word. -/
def tail : Signature → List Char
  | .word _ => []
  | .logical _ text => '(' :: (text.toList ++ [')'])
  | .fixed name size => ':' :: (name.toList ++ '[' :: ((toString size).toList ++ [']']))
  | .array inner | .map inner => '<' :: (inner.render ++ ['>'])
  | .union first rest => '[' :: (first.render ++ renderRest rest)

theorem render_eq (g : Signature) : g.render = g.head.toList ++ g.tail := by
  cases g <;> simp [render, head, tail]

theorem endsWord_tail (g : Signature) {a : List Char} (ha : Stops a) : EndsWord (g.tail ++ a) := by
  cases g with
  | word w => exact ha.endsWord
  | _ => simp [tail, EndsWord, delimiters]

theorem IsWellFormed.head_isWord {g : Signature} (h : g.IsWellFormed) : IsWord g.head := by
  cases g with
  | word w => exact h
  | logical w text => exact h.1
  | array inner => exact (by decide : IsWord "array")
  | map inner => exact (by decide : IsWord "map")
  | fixed name size => exact (by decide : IsWord "fixed")
  | union first rest => exact (by decide : IsWord "union")

theorem bracket_notMem_toString (n : Int) : ']' ∉ (toString n).toList := by
  intro h
  obtain hc | hc := of_mem_toString_int h
  · exact absurd hc (by decide)
  · exact absurd hc (by decide)

theorem bracket_notMem_of_isWord {text : String} (h : IsWord text) : '[' ∉ text.toList :=
  fun hc => h _ hc (by decide)

theorem stops_bracket (a : List Char) : Stops ('>' :: a) := .inr (.inl rfl)

theorem stops_renderRest (gs : List Signature) (a : List Char) : Stops (renderRest gs ++ a) := by
  cases gs <;> simp [renderRest, Stops]

mutual

/-- A signature is read off its text in one way, and so is where it ends. -/
theorem render_unique {g h : Signature} {a b : List Char} (wg : g.IsWellFormed)
    (wh : h.IsWellFormed) (ha : Stops a) (hb : Stops b) (e : g.render ++ a = h.render ++ b) :
    g = h ∧ a = b := by
  rw [render_eq, render_eq, List.append_assoc, List.append_assoc] at e
  obtain ⟨hhead, htail⟩ := word_unique wg.head_isWord wh.head_isWord (endsWord_tail g ha)
    (endsWord_tail h hb) e
  rw [String.toList_inj] at hhead
  match g, h with
  | .word w, .word w' => exact ⟨congrArg _ hhead, htail⟩
  | .logical w text, .logical w' text' =>
    simp only [tail, List.cons_append, List.append_assoc, List.cons.injEq, true_and,
      List.nil_append] at htail
    obtain ⟨htext, rfl⟩ := before_unique wg.2 wh.2 htail
    rw [String.toList_inj] at htext
    exact ⟨by rw [show w = w' from hhead, htext], rfl⟩
  | .fixed name size, .fixed name' size' =>
    simp only [tail, List.cons_append, List.append_assoc, List.cons.injEq, true_and,
      List.nil_append] at htail
    obtain ⟨hname, hrest⟩ := before_unique (bracket_notMem_of_isWord wg)
      (bracket_notMem_of_isWord wh) htail
    obtain ⟨hsize, rfl⟩ := before_unique (bracket_notMem_toString size)
      (bracket_notMem_toString size') hrest
    rw [String.toList_inj] at hname hsize
    exact ⟨by rw [hname, toString_int_injective hsize], rfl⟩
  | .array inner, .array inner' | .map inner, .map inner' =>
    simp only [tail, List.cons_append, List.append_assoc, List.cons.injEq, true_and,
      List.nil_append] at htail
    obtain ⟨rfl, hrest⟩ := render_unique (g := inner) (h := inner') wg wh (stops_bracket a)
      (stops_bracket b) htail
    exact ⟨rfl, (List.cons.inj hrest).2⟩
  | .array _, .map _ | .map _, .array _ => simp [head] at hhead
  | .union first rest, .union first' rest' =>
    simp only [tail, List.cons_append, List.append_assoc, List.cons.injEq, true_and] at htail
    obtain ⟨rfl, hrest⟩ := render_unique wg.1 wh.1 (stops_renderRest ..) (stops_renderRest ..)
      htail
    obtain ⟨rfl, rfl⟩ := renderRest_unique wg.2 wh.2 hrest
    exact ⟨rfl, rfl⟩
  -- after one word, signatures of two forms go on with two characters
  | .word _, .logical .. | .word _, .fixed .. | .word _, .array _ | .word _, .map _
  | .word _, .union .. =>
    subst htail
    simp [tail, Stops] at ha
  | .logical .., .word _ | .fixed .., .word _ | .array _, .word _ | .map _, .word _
  | .union .., .word _ =>
    rw [tail, List.nil_append] at htail
    subst htail
    simp [tail, Stops] at hb
  | .logical .., .fixed .. | .logical .., .array _ | .logical .., .map _ | .logical .., .union ..
  | .fixed .., .logical .. | .fixed .., .array _ | .fixed .., .map _ | .fixed .., .union ..
  | .array _, .logical .. | .array _, .fixed .. | .array _, .union ..
  | .map _, .logical .. | .map _, .fixed .. | .map _, .union ..
  | .union .., .logical .. | .union .., .fixed .. | .union .., .array _ | .union .., .map _ =>
    simp [tail] at htail

theorem renderRest_unique {gs hs : List Signature} {a b : List Char} (wg : AreWellFormed gs)
    (wh : AreWellFormed hs) (e : renderRest gs ++ a = renderRest hs ++ b) : gs = hs ∧ a = b := by
  match gs, hs with
  | [], [] => exact ⟨rfl, (List.cons.inj e).2⟩
  | [], h :: hs => simp [renderRest] at e
  | g :: gs, [] => simp [renderRest] at e
  | g :: gs, h :: hs =>
    simp only [renderRest, List.cons_append, List.append_assoc, List.cons.injEq, true_and] at e
    obtain ⟨rfl, hrest⟩ := render_unique wg.1 wh.1 (stops_renderRest ..) (stops_renderRest ..) e
    obtain ⟨rfl, rfl⟩ := renderRest_unique wg.2 wh.2 hrest
    exact ⟨rfl, rfl⟩

end

/-- The members of a union are separated by commas. -/
theorem intercalate_render (g : Signature) (gs : List Signature) :
    [','].intercalate ((g :: gs).map render) ++ [']'] = g.render ++ renderRest gs := by
  induction gs generalizing g with
  | nil => simp [renderRest]
  | cons next rest ih =>
    rw [List.map_cons, List.map_cons, List.intercalate_cons_cons, List.append_assoc,
      ← List.map_cons, ih next, renderRest]
    simp

theorem render_injective {g h : Signature} (wg : g.IsWellFormed) (wh : h.IsWellFormed)
    (e : g.render = h.render) : g = h :=
  (render_unique wg wh (a := []) (b := []) trivial trivial (by rw [e])).1

end Signature

/-! ### Texts that show where they end -/

/-- The brackets after a word within which any text may stand that is free of the closing one. -/
def textBrackets : List (Char × Char) := [('(', ')'), (':', ']')]

/-- Whether a text shows where it ends: it is a word, or a word with something in brackets after it,
which is a text free of the closing bracket, one such text, or several with commas between them. -/
inductive IsDelimited : List Char → Prop
  | word {w} (nonempty : w ≠ []) (isWord : ∀ c ∈ w, c ∉ delimiters) : IsDelimited w
  | closed {w opening closing text} (isWord : ∀ c ∈ w, c ∉ delimiters)
      (bracket : (opening, closing) ∈ textBrackets) (clear : closing ∉ text) :
      IsDelimited (w ++ opening :: (text ++ [closing]))
  | holding {w inner} (isWord : ∀ c ∈ w, c ∉ delimiters) (held : IsDelimited inner) :
      IsDelimited (w ++ '<' :: (inner ++ ['>']))
  | joined {w members} (isWord : ∀ c ∈ w, c ∉ delimiters)
      (each : ∀ m ∈ members, IsDelimited m) :
      IsDelimited (w ++ '[' :: ([','].intercalate members ++ [']']))

namespace IsDelimited

open Signature (Stops EndsWord word_unique before_unique stops_bracket)

/-- The characters that open what stands after a word. -/
def openings : List Char := ['(', ':', '<', '[']

theorem mem_openings {opening closing : Char} (h : (opening, closing) ∈ textBrackets) :
    opening ∈ openings ∧ opening ≠ '<' ∧ opening ≠ '[' := by
  simp only [textBrackets, List.mem_cons, Prod.mk.injEq, List.not_mem_nil, or_false] at h
  obtain ⟨rfl, -⟩ | ⟨rfl, -⟩ := h <;> decide

theorem closing_unique {opening c c' : Char} (h : (opening, c) ∈ textBrackets)
    (h' : (opening, c') ∈ textBrackets) : c = c' := by
  simp only [textBrackets, List.mem_cons, Prod.mk.injEq, List.not_mem_nil, or_false] at h h'
  obtain ⟨rfl, rfl⟩ | ⟨rfl, rfl⟩ := h <;> simp_all

theorem endsWord_opening {c : Char} (h : c ∈ openings) (rest : List Char) :
    EndsWord (c :: rest) := by
  have apart : ∀ c ∈ openings, c ∈ delimiters := by simp [openings, delimiters]
  exact apart c h

theorem not_stops_opening {c : Char} (h : c ∈ openings) (rest : List Char) :
    ¬ Stops (c :: rest) := by
  have apart : ∀ c ∈ openings, ¬ (c = ',' ∨ c = '>' ∨ c = ']') := by simp [openings]
  exact apart c h

section

variable {w w' a b rest rest' u : List Char} {c c' : Char}

/-- A word that is followed by an opening bracket is fixed by the text, and so is the bracket. -/
theorem opening_unique (hw : ∀ c ∈ w, c ∉ delimiters) (hw' : ∀ c ∈ w', c ∉ delimiters)
    (hc : c ∈ openings) (hc' : c' ∈ openings) (e : w ++ c :: rest = w' ++ c' :: rest') :
    w = w' ∧ c = c' ∧ rest = rest' := by
  obtain ⟨rfl, tail⟩ := word_unique hw hw' (endsWord_opening hc _) (endsWord_opening hc' _) e
  exact ⟨rfl, List.cons.inj tail⟩

/-- A word that ends a text is not followed by an opening bracket. -/
theorem opening_ne_stop (hw : ∀ c ∈ w, c ∉ delimiters) (hw' : ∀ c ∈ w', c ∉ delimiters)
    (ha : Stops a) (hc : c ∈ openings) : w ++ a ≠ w' ++ c :: rest := by
  intro e
  obtain ⟨-, rfl⟩ := word_unique hw hw' ha.endsWord (endsWord_opening hc _) e
  exact not_stops_opening hc _ ha

/-- It does not begin with what could follow it. -/
theorem not_stops (h : IsDelimited u) (a : List Char) : ¬ Stops (u ++ a) := by
  have begins {c : Char} {w rest : List Char} (isWord : ∀ c ∈ w, c ∉ delimiters)
      (opens : c ∈ openings) : ¬ Stops (w ++ c :: rest) := by
    intro stops
    exact opening_ne_stop (w := []) (by simp) isWord stops opens rfl
  cases h with
  | word nonempty isWord =>
    intro stops
    cases u with
    | nil => exact nonempty rfl
    | cons c rest => exact isWord c List.mem_cons_self stops.endsWord
  | closed isWord bracket =>
    rw [List.append_assoc]
    exact begins isWord (mem_openings bracket).1
  | holding isWord | joined isWord =>
    rw [List.append_assoc]
    exact begins isWord (by decide)

end

/-- Where each of some texts shows where it ends, so does their list, up to the bracket after it. -/
theorem members_unique {us vs : List (List Char)} {a b : List Char}
    (unique : ∀ u ∈ us, ∀ {v a b : List Char}, IsDelimited v → Stops a → Stops b →
      u ++ a = v ++ b → u = v ∧ a = b) (hv : ∀ v ∈ vs, IsDelimited v)
    (e : us.flatMap (',' :: ·) ++ ']' :: a = vs.flatMap (',' :: ·) ++ ']' :: b) :
    us = vs ∧ a = b := by
  have stops (us : List (List Char)) (a : List Char) :
      Stops (us.flatMap (',' :: ·) ++ ']' :: a) := by
    cases us <;> simp [Stops]
  induction us generalizing vs with
  | nil =>
    cases vs with
    | nil => exact ⟨rfl, (List.cons.inj e).2⟩
    | cons v vs => simp at e
  | cons u us ih =>
    cases vs with
    | nil => simp at e
    | cons v vs =>
      rw [List.forall_mem_cons] at hv
      simp only [List.flatMap_cons, List.cons_append, List.append_assoc, List.cons.injEq,
        true_and] at e
      obtain ⟨rfl, tail⟩ := unique u List.mem_cons_self hv.1 (stops us a) (stops vs b) e
      obtain ⟨rfl, rfl⟩ := ih (fun u hu => unique u (List.mem_cons_of_mem _ hu)) hv.2 tail
      exact ⟨rfl, rfl⟩

theorem intercalate_cons (u : List Char) (us : List (List Char)) :
    [','].intercalate (u :: us) = u ++ us.flatMap (',' :: ·) := by
  induction us generalizing u with
  | nil => simp
  | cons v vs ih => rw [List.intercalate_cons_cons, ih v]; simp

/-- Several such texts with commas between them are told apart, too. -/
theorem intercalate_unique {us vs : List (List Char)} {a b : List Char}
    (unique : ∀ u ∈ us, ∀ {v a b : List Char}, IsDelimited v → Stops a → Stops b →
      u ++ a = v ++ b → u = v ∧ a = b)
    (hu : ∀ u ∈ us, IsDelimited u) (hv : ∀ v ∈ vs, IsDelimited v)
    (e : [','].intercalate us ++ ']' :: a = [','].intercalate vs ++ ']' :: b) :
    us = vs ∧ a = b := by
  have stops (a : List Char) : Stops (']' :: a) := .inr (.inr rfl)
  cases us with
  | nil =>
    cases vs with
    | nil => exact ⟨rfl, (List.cons.inj e).2⟩
    | cons v vs =>
      rw [intercalate_cons, List.append_assoc, List.intercalate_nil, List.nil_append] at e
      exact ((hv v List.mem_cons_self).not_stops _ (e ▸ stops a)).elim
  | cons u us =>
    cases vs with
    | nil =>
      rw [intercalate_cons, List.append_assoc, List.intercalate_nil, List.nil_append] at e
      exact ((hu u List.mem_cons_self).not_stops _ (e ▸ stops b)).elim
    | cons v vs =>
      -- a comma before the first text makes the two lists those of the lemma above
      refine members_unique unique hv ?_
      rw [intercalate_cons, intercalate_cons] at e
      simpa using e

/-- It ends in one place only. -/
theorem unique {u v a b : List Char} (hu : IsDelimited u) (hv : IsDelimited v) (ha : Stops a)
    (hb : Stops b) (e : u ++ a = v ++ b) : u = v ∧ a = b := by
  induction hu generalizing v a b with
  | word _ isWord =>
    cases hv with
    | word _ isWord' => exact word_unique isWord isWord' ha.endsWord hb.endsWord e
    | closed isWord' bracket =>
      rw [List.append_assoc] at e
      exact absurd e (opening_ne_stop isWord isWord' ha (mem_openings bracket).1)
    | holding isWord' | joined isWord' =>
      rw [List.append_assoc] at e
      exact absurd e (opening_ne_stop isWord isWord' ha (by decide))
  | closed isWord bracket clear =>
    have opens := mem_openings bracket
    cases hv with
    | word _ isWord' =>
      rw [List.append_assoc] at e
      exact absurd e.symm (opening_ne_stop isWord' isWord hb opens.1)
    | closed isWord' bracket' clear' =>
      simp only [List.append_assoc, List.cons_append, List.nil_append] at e
      obtain ⟨rfl, rfl, inner⟩ := opening_unique isWord isWord' opens.1 (mem_openings bracket').1 e
      obtain rfl := closing_unique bracket bracket'
      obtain ⟨rfl, rfl⟩ := before_unique clear clear' inner
      exact ⟨rfl, rfl⟩
    | holding isWord' =>
      rw [List.append_assoc, List.append_assoc] at e
      exact absurd (opening_unique isWord isWord' opens.1 (by decide) e).2.1 opens.2.1
    | joined isWord' =>
      rw [List.append_assoc, List.append_assoc] at e
      exact absurd (opening_unique isWord isWord' opens.1 (by decide) e).2.1 opens.2.2
  | holding isWord held ih =>
    cases hv with
    | word _ isWord' =>
      rw [List.append_assoc] at e
      exact absurd e.symm (opening_ne_stop isWord' isWord hb (by decide))
    | closed isWord' bracket =>
      have opens := mem_openings bracket
      rw [List.append_assoc, List.append_assoc] at e
      exact absurd (opening_unique isWord isWord' (by decide) opens.1 e).2.1.symm opens.2.1
    | holding isWord' held' =>
      simp only [List.append_assoc, List.cons_append, List.nil_append] at e
      obtain ⟨rfl, -, inner⟩ := opening_unique isWord isWord' (by decide) (by decide) e
      obtain ⟨rfl, tail⟩ := ih held' (stops_bracket a) (stops_bracket b) inner
      exact ⟨rfl, (List.cons.inj tail).2⟩
    | joined isWord' =>
      rw [List.append_assoc, List.append_assoc] at e
      cases (opening_unique isWord isWord' (by decide) (by decide) e).2.1
  | joined isWord each ih =>
    cases hv with
    | word _ isWord' =>
      rw [List.append_assoc] at e
      exact absurd e.symm (opening_ne_stop isWord' isWord hb (by decide))
    | closed isWord' bracket =>
      have opens := mem_openings bracket
      rw [List.append_assoc, List.append_assoc] at e
      exact absurd (opening_unique isWord isWord' (by decide) opens.1 e).2.1.symm opens.2.2
    | holding isWord' =>
      rw [List.append_assoc, List.append_assoc] at e
      cases (opening_unique isWord isWord' (by decide) (by decide) e).2.1
    | joined isWord' each' =>
      simp only [List.append_assoc, List.cons_append, List.nil_append] at e
      obtain ⟨rfl, -, inner⟩ := opening_unique isWord isWord' (by decide) (by decide) e
      obtain ⟨rfl, rfl⟩ := intercalate_unique ih each each' inner
      exact ⟨rfl, rfl⟩

end IsDelimited
end SchemaReview
