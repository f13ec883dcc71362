import SchemaReview.Yaml.BlockText
import SchemaReview.Text.Digit

/-!
# Plain and quoted texts

Texts that may go on over several lines. A single line end inside such a text is a space; more than
one leave as many as there are after the first. Blanks around line ends do not count. Between double
quotes a backslash starts an escape.
-/
namespace SchemaReview.Yaml

/-- What stands for a line end and the blank lines after it. -/
def foldedBreaks (first : Char) (others : List Char) : List Char :=
  if first ≠ '\n' then first :: others
  else if others.isEmpty then [' ']
  else others

/-- The character of a simple escape. -/
def simpleEscape? : Char → Option Char
  | '0' => some '\x00'
  | 'a' => some '\x07'
  | 'b' => some '\x08'
  | 't' => some '\t'
  | '\t' => some '\t'
  | 'n' => some '\n'
  | 'v' => some '\x0b'
  | 'f' => some '\x0c'
  | 'r' => some '\r'
  | 'e' => some '\x1b'
  | ' ' => some ' '
  | '"' => some '"'
  | '\\' => some '\\'
  | '/' => some '/'
  | 'N' => some '\x85'
  | '_' => some '\xa0'
  | 'L' => some '\u2028'
  | 'P' => some '\u2029'
  | _ => none

/-- How many hexadecimal digits follow the letter of an escape. -/
def escapeDigits? : Char → Option Nat
  | 'x' => some 2
  | 'u' => some 4
  | 'U' => some 8
  | _ => none

/-- The number of some hexadecimal digits. -/
def hexNumber? (digits : List Char) : Option Nat :=
  digits.foldl (fun acc d => do return 16 * (← acc) + (← Text.hexValue? d)) (some 0)

/-- The character with a code point. -/
def charOfCode (code : Nat) : Except Fault Char :=
  if code ≤ 0x10FFFF then .ok (Char.ofNat code)
  else .error (.failed (.value .codePointOutOfRange))

namespace Cursor

/-- The ends of the blank lines here, and the cursor at the next character that is no blank. A
marker that ends a document may not start a line. -/
def quotedBlanks : Nat → Cursor → Except Fault (List Char × Cursor)
  | 0, c => .ok ([], c)
  | fuel + 1, c =>
    if c.isAtDocumentMarker then refuse .separatorInsideText
    else
      let c := c.skipWhile isSpaceOrTab
      match c.lineBreak? with
      | some (b, next) => do
        let (breaks, last) ← quotedBlanks fuel next
        return (b :: breaks, last)
      | none => .ok ([], c)

/-- The blanks and line ends here. -/
def quotedGap (c : Cursor) : Except Fault (List Char × Cursor) :=
  let (blanks, c) := c.span isSpaceOrTab
  match c.lineBreak? with
  | some (b, next) => do
    let (others, last) ← quotedBlanks next.rest.length.succ next
    return (foldedBreaks b others, last)
  | none => if c.peek == endOfText then refuse .unclosedText else .ok (blanks, c)

/-- The characters of an escape whose backslash has been read. -/
def quotedEscape (c : Cursor) : Except Fault (List Char × Cursor) :=
  match simpleEscape? c.peek with
  | some x => .ok ([x], c.advance)
  | none =>
    match escapeDigits? c.peek with
    | some n => do
      let digits := c.advance.rest.take n
      match hexNumber? digits with
      | some code =>
        if digits.length = n then return ([← charOfCode code], c.advance.skip n)
        else refuse .unknownEscape
      | none => refuse .unknownEscape
    | none =>
      match c.lineBreak? with
      | some (_, next) => quotedBlanks next.rest.length.succ next
      | none => refuse .unknownEscape

/-- The text up to a closing quote, and the cursor after the quote. Between single quotes a quote is
written twice. -/
def quotedText (isDouble : Bool) : Nat → Cursor → Except Fault (List Char × Cursor)
  | 0, _ => refuse .unclosedText
  | fuel + 1, c => do
    let x := c.peek
    if isDouble && x == '"' then return ([], c.advance)
    else if !isDouble && x == '\'' && c.peekAt 1 != '\'' then return ([], c.advance)
    else
      let (part, next) ←
        if isSeparator x then c.quotedGap
        else if isDouble && x == '\\' then c.advance.quotedEscape
        else if !isDouble && x == '\'' then pure ([x], c.skip 2)
        else pure ([x], c.advance)
      let (rest, last) ← quotedText isDouble fuel next
      return (part ++ rest, last)

/-- Whether a plain text ends before a character. Inside brackets the characters of the brackets end
it too. -/
def endsPlain (inFlow : Bool) (x following : Char) : Bool :=
  isSeparator x ||
  (x == ':' && (isSeparator following || (inFlow && ",[]\x7b\x7d".toList.contains following))) ||
  (inFlow && ",?[]\x7b\x7d".toList.contains x)

def plainWordFrom (inFlow : Bool) : List Char → Mark → List Char × Cursor
  | [], m => ([], ⟨[], m⟩)
  | x :: rest, m =>
    if endsPlain inFlow x (rest.headD endOfText) then ([], ⟨x :: rest, m⟩)
    else
      let (word, c) := plainWordFrom inFlow rest (m.after x rest)
      (x :: word, c)

/-- The characters of a plain text up to a blank or its end. -/
def plainWord (c : Cursor) (inFlow : Bool) : List Char × Cursor :=
  plainWordFrom inFlow c.rest c.mark

/-- The ends of the blank lines here, and the cursor at the next character that is neither a space
nor a line end; nothing if a marker that ends a document comes first. -/
def plainBlanks : Nat → Cursor → Option (List Char) × Cursor
  | 0, c => (some [], c)
  | fuel + 1, c =>
    if c.isAtDocumentMarker then (none, c)
    else
      let c := c.skipSpaces
      match c.lineBreak? with
      | some (b, next) =>
        let (breaks, last) := plainBlanks fuel next
        (breaks.map (b :: ·), last)
      | none => (some [], c)

end Cursor

/-- What lies between two words of a plain text. -/
structure PlainGap where
  text : List Char
  /-- Whether the gap goes on over the end of a line. -/
  crossesLines : Bool
  cursor : Cursor
deriving Repr

/-- A plain text, its end, and what follows it up to the next character that is no blank. -/
structure PlainText where
  text : List Char
  stop : Mark
  gap : PlainGap
deriving Repr

namespace Cursor

def plainGap (c : Cursor) : PlainGap :=
  let (spaces, c) := c.span (· == ' ')
  match c.lineBreak? with
  | some (b, next) =>
    let (others, last) := plainBlanks next.rest.length.succ next
    match others with
    | some others => ⟨foldedBreaks b others, true, last⟩
    | none => ⟨[], true, last⟩
  | none => ⟨spaces, false, c⟩

/-- The plain text that starts here. Outside of brackets its lines are indented as far as `least` at
the least. -/
def plainText (inFlow : Bool) (least : Nat) : Nat → Cursor → Option PlainText
  | 0, _ => none
  | fuel + 1, c =>
    let (word, stop) := c.plainWord inFlow
    if word.isEmpty then none
    else
      let gap := stop.plainGap
      let ended : PlainText := ⟨word, stop.mark, gap⟩
      let next := gap.cursor
      if gap.text.isEmpty || next.peek == '#' || (!inFlow && next.column < least) then some ended
      else
        match plainText inFlow least fuel next with
        | none => some ended
        | some more => some { more with text := word ++ gap.text ++ more.text }

end Cursor
end SchemaReview.Yaml
