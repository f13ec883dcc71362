import SchemaReview.Yaml.Fault

/-!
# Places in a text

A cursor is the rest of a text together with its place: line, column and index, all counted from
zero. Past the end every character is the null character, which no readable text contains, so a
reader may look ahead without a test for the end.
-/
namespace SchemaReview.Yaml

structure Mark where
  line : Nat := 0
  column : Nat := 0
  index : Nat := 0
deriving DecidableEq, Repr, Inhabited

/-- The character that stands for the end of a text. -/
def endOfText : Char := '\x00'

def byteOrderMark : Char := '\ufeff'

/-- The characters that may stand in a text. -/
def isPrintable (c : Char) : Bool :=
  let n := c.toNat
  n == 0x09 || n == 0x0A || n == 0x0D || (0x20 ≤ n && n ≤ 0x7E) || n == 0x85 ||
    (0xA0 ≤ n && n ≤ 0xD7FF) || (0xE000 ≤ n && n ≤ 0xFFFD) || 0x10000 ≤ n

/-- The characters that end a line. -/
def isBreak (c : Char) : Bool :=
  c == '\n' || c == '\r' || c == '\x85' || c == '\u2028' || c == '\u2029'

def isBreakOrEnd (c : Char) : Bool := isBreak c || c == endOfText

/-- The characters that separate words: spaces, tabs, line ends and the end of the text. -/
def isSeparator (c : Char) : Bool := isBreakOrEnd c || c == ' ' || c == '\t'

/-- Like the separators, without the tab. -/
def isSpaceOrEnd (c : Char) : Bool := isBreakOrEnd c || c == ' '

/-- The characters of anchors, tag handles and names of directives. -/
def isNameChar (c : Char) : Bool := c.isAlphanum || c == '-' || c == '_'

/-- The place after a character. A carriage return ends the line unless a line feed follows, and a
byte order mark takes no column. -/
def Mark.after (m : Mark) (c : Char) (following : List Char) : Mark :=
  if isBreak c && !(c == '\r' && following.head? == some '\n') then ⟨m.line + 1, 0, m.index + 1⟩
  else if c == byteOrderMark then { m with index := m.index + 1 }
  else { m with column := m.column + 1, index := m.index + 1 }

structure Cursor where
  rest : List Char
  mark : Mark := {}
deriving Repr

namespace Cursor

/-- The character at a distance. -/
def peekAt (c : Cursor) (distance : Nat) : Char := (c.rest[distance]?).getD endOfText

def peek (c : Cursor) : Char := c.rest.headD endOfText

def column (c : Cursor) : Nat := c.mark.column

/-- The cursor after the next character. -/
def advance (c : Cursor) : Cursor :=
  match c.rest with
  | [] => c
  | x :: rest => ⟨rest, c.mark.after x rest⟩

/-- The cursor after a number of characters. -/
def skip (c : Cursor) : Nat → Cursor
  | 0 => c
  | n + 1 => c.advance.skip n

/-- The characters up to the first one without a property, and the cursor there. -/
def spanFrom (p : Char → Bool) : List Char → Mark → List Char × Cursor
  | [], m => ([], ⟨[], m⟩)
  | x :: rest, m =>
    if p x then
      let (taken, c) := spanFrom p rest (m.after x rest)
      (x :: taken, c)
    else ([], ⟨x :: rest, m⟩)

def span (c : Cursor) (p : Char → Bool) : List Char × Cursor := spanFrom p c.rest c.mark

def skipWhile (c : Cursor) (p : Char → Bool) : Cursor := (c.span p).2

def skipSpaces (c : Cursor) : Cursor := c.skipWhile (· == ' ')

/-- The cursor at the end of a comment that starts here, if one does. -/
def skipComment (c : Cursor) : Cursor :=
  if c.peek == '#' then c.skipWhile fun x => !isBreak x else c

def skipIndentFrom (column : Nat) : List Char → Mark → Cursor
  | ' ' :: rest, m =>
    if m.column < column then skipIndentFrom column rest (m.after ' ' rest) else ⟨' ' :: rest, m⟩
  | rest, m => ⟨rest, m⟩

/-- The cursor after spaces, up to a column at most. -/
def skipIndent (c : Cursor) (column : Nat) : Cursor := skipIndentFrom column c.rest c.mark

/-- The line end here, as the character that stands for it in a value, and the cursor after it.
Carriage returns and line feeds, alone or together, and next-line characters are line feeds. -/
def lineBreak? (c : Cursor) : Option (Char × Cursor) :=
  match c.rest with
  | '\r' :: '\n' :: _ => some ('\n', c.advance.advance)
  | x :: _ =>
    if x == '\n' || x == '\r' || x == '\x85' then some ('\n', c.advance)
    else if isBreak x then some (x, c.advance)
    else none
  | [] => none

/-- The cursor after the line end here, if there is one. -/
def skipBreak (c : Cursor) : Cursor :=
  match c.lineBreak? with
  | some (_, next) => next
  | none => c

/-- Whether three equal characters stand here before a separator: `---` or `...`. -/
def isAtMarker (c : Cursor) (x : Char) : Bool :=
  c.peek == x && c.peekAt 1 == x && c.peekAt 2 == x && isSeparator (c.peekAt 3)

/-- Whether a marker that ends a document stands here. -/
def isAtDocumentMarker (c : Cursor) : Bool := c.isAtMarker '-' || c.isAtMarker '.'

/-- The cursor after spaces, a comment and the end of a line, when nothing else is on the line. -/
def finishLine (c : Cursor) (problem : Problem) : Except Fault Cursor :=
  let c := c.skipSpaces.skipComment
  if isBreakOrEnd c.peek then .ok c.skipBreak else refuse problem

end Cursor
end SchemaReview.Yaml
