/-!
# Comments of interface definitions

A text is cut into pieces, left to right: string literals, comments, and single characters. A quote
that is never closed and a block comment that is never closed open nothing. Blanking the comments
keeps every line and every offset.
-/
namespace SchemaReview.Protobuf

inductive Piece where
  | literal (text : List Char)
  | comment (text : List Char)
  | plain (c : Char)
deriving DecidableEq, Repr

/-- The rest of a string literal through its closing quote, and what follows. A backslash takes the
next character with it. -/
def takeLiteral (quote : Char) : List Char → Option (List Char × List Char)
  | [] => none
  | '\\' :: [] => none
  | '\\' :: c :: rest =>
    (takeLiteral quote rest).map fun (body, rest) => ('\\' :: c :: body, rest)
  | c :: rest =>
    if c == quote then some ([c], rest)
    else (takeLiteral quote rest).map fun (body, rest) => (c :: body, rest)

/-- The rest of a block comment through its end mark, and what follows. -/
def takeBlockComment : List Char → Option (List Char × List Char)
  | [] => none
  | '*' :: '/' :: rest => some (['*', '/'], rest)
  | c :: rest => (takeBlockComment rest).map fun (body, rest) => (c :: body, rest)

theorem takeLiteral_append {quote : Char} {s body rest : List Char}
    (h : takeLiteral quote s = some (body, rest)) : body ++ rest = s := by
  fun_induction takeLiteral quote s generalizing body rest with
  | case1 => simp at h
  | case2 => simp at h
  | case3 c s ih =>
    obtain ⟨⟨b, r⟩, hb, he⟩ := Option.map_eq_some_iff.1 h
    cases he
    simp [ih hb]
  | case4 c s _ _ hc =>
    cases h
    simp
  | case5 c s _ _ hc ih =>
    obtain ⟨⟨b, r⟩, hb, he⟩ := Option.map_eq_some_iff.1 h
    cases he
    simp [ih hb]

theorem takeBlockComment_append {s body rest : List Char}
    (h : takeBlockComment s = some (body, rest)) : body ++ rest = s := by
  fun_induction takeBlockComment s generalizing body rest with
  | case1 => simp at h
  | case2 s =>
    cases h
    simp
  | case3 c s _ ih =>
    obtain ⟨⟨b, r⟩, hb, he⟩ := Option.map_eq_some_iff.1 h
    cases he
    simp [ih hb]

/-- The first piece of a text that starts with a given character, and what follows the piece. -/
def firstPiece (c : Char) (s : List Char) : Piece × List Char :=
  if c == '"' || c == '\'' then
    match takeLiteral c s with
    | some (body, rest) => (.literal (c :: body), rest)
    | none => (.plain c, s)
  else if c == '/' then
    match s with
    | '/' :: _ => (.comment (c :: s.takeWhile (· != '\n')), s.dropWhile (· != '\n'))
    | '*' :: t =>
      match takeBlockComment t with
      | some (body, rest) => (.comment (c :: '*' :: body), rest)
      | none => (.plain c, s)
    | _ => (.plain c, s)
  else (.plain c, s)

def Piece.text : Piece → List Char
  | .literal t => t
  | .comment t => t
  | .plain c => [c]

/-- The first piece and the rest make up the text. -/
theorem firstPiece_append (c : Char) (s : List Char) :
    (firstPiece c s).1.text ++ (firstPiece c s).2 = c :: s := by
  unfold firstPiece
  split
  · split
    · rename_i h
      simp [Piece.text, takeLiteral_append h]
    · simp [Piece.text]
  · split
    · split
      · simp [Piece.text]
      · split
        · rename_i h
          simp [Piece.text, takeBlockComment_append h]
        · simp [Piece.text]
      · simp [Piece.text]
    · simp [Piece.text]

theorem firstPiece_text_ne_nil (c : Char) (s : List Char) : (firstPiece c s).1.text ≠ [] := by
  unfold firstPiece
  repeat' split
  all_goals simp [Piece.text]

theorem firstPiece_rest_length (c : Char) (s : List Char) :
    (firstPiece c s).2.length < (c :: s).length := by
  have h := congrArg List.length (firstPiece_append c s)
  have hne := List.length_pos_iff.2 (firstPiece_text_ne_nil c s)
  simp only [List.length_append] at h
  omega

/-- The pieces of a text. -/
def pieces : List Char → List Piece
  | [] => []
  | c :: s => (firstPiece c s).1 :: pieces (firstPiece c s).2
termination_by s => s.length
decreasing_by exact firstPiece_rest_length c s

/-- A comment's characters become spaces, its line feeds stay. -/
def blankChar (c : Char) : Char := if c == '\n' then '\n' else ' '

/-- What remains of a piece when comments are blanked. -/
def Piece.blanked : Piece → List Char
  | .comment t => t.map blankChar
  | p => p.text

/-- A text with its comments blanked. -/
def stripComments (s : List Char) : List Char := (pieces s).flatMap Piece.blanked

end SchemaReview.Protobuf
