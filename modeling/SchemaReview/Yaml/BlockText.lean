import SchemaReview.Yaml.Cursor

/-!
# Block texts

A text set off by indentation, kept line by line after `|` and folded after `>`. A folded text joins
two lines with a space unless one of them starts with a blank. The header may fix the indentation
and say what becomes of the line ends at the end.
-/
namespace SchemaReview.Yaml

/-- What becomes of the line ends at the end of a block text. -/
inductive Chomping where
  | strip
  | clip
  | keep
deriving DecidableEq, Repr

def Chomping.ofChar? : Char → Option Chomping
  | '+' => some .keep
  | '-' => some .strip
  | _ => none

structure BlockHeader where
  chomping : Chomping := .clip
  /-- The indentation beyond the enclosing block, if it is given. -/
  indentation : Option Nat := none
deriving Repr

def digit? (c : Char) : Option Nat := if c.isDigit then some (c.toNat - '0'.toNat) else none

def isSpaceOrTab (c : Char) : Bool := c == ' ' || c == '\t'

namespace Cursor

/-- The indentation that a header gives, if it gives one. Zero is refused. -/
def blockIndentation (c : Cursor) : Except Fault (Option Nat × Cursor) :=
  match digit? c.peek with
  | some 0 => refuse .malformedBlockHeader
  | some n => .ok (some n, c.advance)
  | none => .ok (none, c)

/-- The header of a block text up to the end of its line: chomping and indentation in any order. -/
def blockHeader (c : Cursor) : Except Fault (BlockHeader × Cursor) := do
  let (header, c) ←
    match Chomping.ofChar? c.peek with
    | some chomping => do
      let (indentation, c) ← c.advance.blockIndentation
      pure (BlockHeader.mk chomping indentation, c)
    | none => do
      let (indentation, c) ← c.blockIndentation
      match indentation, Chomping.ofChar? c.peek with
      | some n, some chomping => pure (BlockHeader.mk chomping (some n), c.advance)
      | _, _ => pure (BlockHeader.mk .clip indentation, c)
  if isSpaceOrEnd c.peek then return (header, ← c.finishLine .malformedBlockHeader)
  else refuse .malformedBlockHeader

/-- The blank lines before the first line of a text: their ends, the widest indentation among them
and on that line, and the cursor there. -/
def leadingLines : Nat → Cursor → List Char × Nat × Cursor
  | 0, c => ([], 0, c)
  | fuel + 1, c =>
    if c.peek == ' ' then
      let (breaks, widest, last) := leadingLines fuel c.advance
      (breaks, max c.advance.column widest, last)
    else
      match c.lineBreak? with
      | some (b, next) =>
        let (breaks, widest, last) := leadingLines fuel next
        (b :: breaks, widest, last)
      | none => ([], 0, c)

/-- The ends of the lines that hold no more than an indentation, and the cursor after them and the
next indentation. -/
def blankLines (indentation : Nat) : Nat → Cursor → List Char × Cursor
  | 0, c => ([], c)
  | fuel + 1, c =>
    let c := c.skipIndent indentation
    match c.lineBreak? with
    | some (b, next) =>
      let (breaks, last) := blankLines indentation fuel next
      (b :: breaks, last)
    | none => ([], c)

end Cursor

/-- The lines of a block text, and the line ends after the last one: that of the line itself and
those of the blank lines that follow it. -/
structure BlockLines where
  text : List Char
  lastBreak : List Char
  blanks : List Char
  cursor : Cursor
deriving Repr

namespace Cursor

/-- What stands for the line end between two lines. -/
def lineJoint (folded : Bool) (startsWithBlank nextStartsWithBlank : Bool) (lineBreak blanks : List Char) :
    List Char :=
  if folded && lineBreak == ['\n'] && !startsWithBlank && !nextStartsWithBlank then
    if blanks.isEmpty then [' '] else []
  else lineBreak

/-- The lines with a given indentation; `blanks` are the line ends before the first one. -/
def blockLines (folded : Bool) (indentation : Nat) : Nat → List Char → Cursor → BlockLines
  | 0, blanks, c => ⟨[], [], blanks, c⟩
  | fuel + 1, blanks, c =>
    if c.column ≠ indentation || c.peek == endOfText then ⟨[], [], blanks, c⟩
    else
      let (line, stop) := c.span fun x => !isBreak x
      let lineBreak := match stop.lineBreak? with
        | some (b, _) => [b]
        | none => []
      let (nextBlanks, next) := blankLines indentation stop.rest.length stop.skipBreak
      if next.column = indentation && next.peek != endOfText then
        let joint := lineJoint folded (isSpaceOrTab c.peek) (isSpaceOrTab next.peek) lineBreak
          nextBlanks
        let more := blockLines folded indentation fuel nextBlanks next
        { more with text := blanks ++ line ++ joint ++ more.text }
      else ⟨blanks ++ line, lineBreak, nextBlanks, next⟩

/-- The text after a block indicator inside a block with a given least indentation. -/
def blockText (c : Cursor) (folded : Bool) (least : Nat) : Except Fault (List Char × Cursor) := do
  let (header, c) ← c.blockHeader
  let size := c.rest.length + 1
  let (blanks, indentation, c) :=
    match header.indentation with
    | some n =>
      let indentation := least + n - 1
      let (blanks, c) := blankLines indentation size c
      (blanks, indentation, c)
    | none =>
      let (blanks, widest, c) := leadingLines size c
      (blanks, max least widest, c)
  let lines := blockLines folded indentation size blanks c
  let tail := match header.chomping with
    | .strip => []
    | .clip => lines.lastBreak
    | .keep => lines.lastBreak ++ lines.blanks
  return (lines.text ++ tail, lines.cursor)

end Cursor
end SchemaReview.Yaml
