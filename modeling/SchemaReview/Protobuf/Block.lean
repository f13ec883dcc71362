import SchemaReview.Fault
import SchemaReview.Text.Blank

/-!
# Statements and blocks

The skeleton of an interface definition: statements that end with a semicolon, and blocks of them
between braces, each with the text before it as its header. Runs of blanks in a text become one
space. A statement's offset is where the mark before it ended, a block's offset is that of its
opening brace.
-/
namespace SchemaReview.Protobuf

inductive Item where
  | statement (text : List Char) (offset : Nat)
  | block (header : List Char) (offset : Nat) (children : List Item)
deriving Repr

/-- A block that is still open, with its items so far, the last one first. -/
structure OpenBlock where
  header : List Char
  offset : Nat
  items : List Item
deriving Repr

/-- A fault at an offset of the text. -/
structure BlockFault where
  fault : Fault
  offset : Nat
deriving DecidableEq, Repr

/-- Where the scan stands: the items of the innermost open block and the blocks around it, both
the last one first; the text since the last mark, backwards; and the offset after that mark. -/
structure Scan where
  items : List Item := []
  stack : List OpenBlock := []
  pending : List Char := []
  start : Nat := 0
deriving Repr

/-- The text since the last mark. -/
def Scan.text (s : Scan) : List Char := Text.normalizeBlanks s.pending.reverse

/-- One character at an offset. -/
def Scan.step (s : Scan) (c : Char) (offset : Nat) : Except BlockFault Scan :=
  if c == ';' then
    let items := if s.text.isEmpty then s.items else .statement s.text s.start :: s.items
    .ok { s with items := items, pending := [], start := offset + 1 }
  else if c == '\x7b' then
    .ok { items := [], stack := ⟨s.text, offset, s.items⟩ :: s.stack, pending := [],
          start := offset + 1 }
  else if c == '\x7d' then
    match s.stack with
    | [] => .error ⟨.unexpectedClose, offset⟩
    | b :: outer =>
      .ok { items := .block b.header b.offset s.items.reverse :: b.items, stack := outer,
            pending := [], start := offset + 1 }
  else .ok { s with pending := c :: s.pending }

/-- The scan of a text from an offset on. -/
def Scan.run (s : Scan) : List Char → Nat → Except BlockFault Scan
  | [], _ => .ok s
  | c :: rest, offset =>
    match s.step c offset with
    | .ok s => s.run rest (offset + 1)
    | .error e => .error e

/-- The statements and blocks of a text without comments. -/
def scan (text : List Char) : Except BlockFault (List Item) :=
  match Scan.run {} text 0 with
  | .error e => .error e
  | .ok s =>
    match s.stack with
    | [] => .ok s.items.reverse
    | b :: _ => .error ⟨.unterminatedBlock, b.offset⟩

end SchemaReview.Protobuf
