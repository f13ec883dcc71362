import SchemaReview.Yaml.Property

/-!
# Tokens of a text

A text is cut into tokens from left to right. Whether a node is the key of a mapping shows only at
the colon after it: each place where a key may have started is remembered, one for every depth of
brackets, and at the colon the tokens that announce the key are put in before it. A key lies on one
line and is no longer than 1024 characters. Outside of brackets the indentation opens and closes
block collections.
-/
namespace SchemaReview.Yaml

/-- A place where the key of a mapping may have started. -/
structure PossibleKey where
  /-- How many tokens come before it. -/
  position : Nat
  /-- Whether something has to follow for which it is the key. -/
  required : Bool
  mark : Mark
deriving Repr

structure Lexer where
  cursor : Cursor
  tokens : Array Token := #[]
  /-- How many brackets are open. -/
  depth : Nat := 0
  /-- The columns of the open block collections, the innermost first. -/
  blocks : List Nat := []
  /-- Whether the key of a mapping may start here. -/
  keyAllowed : Bool := true
  /-- The possible keys by the depth at which they lie. -/
  keys : List (Nat × PossibleKey) := []
deriving Repr

namespace Lexer

def inFlow (s : Lexer) : Bool := s.depth ≠ 0

/-- The column from which on the content of the innermost block lies. -/
def contentColumn (s : Lexer) : Nat :=
  match s.blocks with
  | [] => 0
  | column :: _ => column + 1

def emit (s : Lexer) (kind : TokenKind) (start : Mark) : Lexer :=
  { s with tokens := s.tokens.push ⟨kind, start, s.cursor.mark⟩ }

/-- A token of some characters. -/
def emitNext (s : Lexer) (kind : TokenKind) (size : Nat) : Lexer :=
  { s with cursor := s.cursor.skip size }.emit kind s.cursor.mark

/-- The lexer without the possible keys that lie on an earlier line or too far back. -/
def dropStaleKeys (s : Lexer) : Except Fault Lexer :=
  let here := s.cursor.mark
  let isStale (k : PossibleKey) : Bool := k.mark.line ≠ here.line || 1024 < here.index - k.mark.index
  if s.keys.any fun k => isStale k.2 && k.2.required then refuse .keyWithoutColon
  else .ok { s with keys := s.keys.filter fun k => !isStale k.2 }

/-- The lexer without the possible key at this depth. -/
def dropKey (s : Lexer) : Except Fault Lexer :=
  match s.keys.lookup s.depth with
  | none => .ok s
  | some k =>
    if k.required then refuse .keyWithoutColon
    else .ok { s with keys := s.keys.filter fun k => k.1 ≠ s.depth }

/-- The lexer with a possible key that starts here, where one may. -/
def noteKey (s : Lexer) : Except Fault Lexer :=
  if !s.keyAllowed then .ok s
  else do
    let required := !s.inFlow && s.blocks.head? = some s.cursor.column
    let s ← s.dropKey
    return { s with keys := (s.depth, ⟨s.tokens.size, required, s.cursor.mark⟩) :: s.keys }

def closeBlocks (s : Lexer) (isInner : Nat → Bool) : Lexer :=
  let mark := s.cursor.mark
  let closed := (s.blocks.takeWhile isInner).map fun _ => Token.mk .blockEnd mark mark
  { s with tokens := s.tokens ++ closed.toArray, blocks := s.blocks.dropWhile isInner }

/-- The lexer after the blocks that the column of the next token ends. -/
def closeInnerBlocks (s : Lexer) : Lexer :=
  if s.inFlow then s else s.closeBlocks fun column => s.cursor.column < column

def closeAllBlocks (s : Lexer) : Lexer :=
  if s.inFlow then s else s.closeBlocks fun _ => true

/-- Whether a column is deeper than that of the innermost block. -/
def isDeeper (s : Lexer) (column : Nat) : Bool :=
  match s.blocks with
  | [] => true
  | innermost :: _ => innermost < column

/-- The lexer with a block collection opened here, unless one is open at this column. -/
def openBlock (s : Lexer) (kind : TokenKind) : Lexer :=
  if s.isDeeper s.cursor.column then
    { s with blocks := s.cursor.column :: s.blocks }.emit kind s.cursor.mark
  else s

/-- The lexer at the next character that belongs to a token. Outside of brackets a new line may start
with a key. -/
def skipToToken : Nat → Lexer → Lexer
  | 0, s => s
  | fuel + 1, s =>
    let c := s.cursor.skipSpaces.skipComment
    match c.lineBreak? with
    | some (_, next) =>
      skipToToken fuel { s with cursor := next, keyAllowed := s.keyAllowed || !s.inFlow }
    | none => { s with cursor := c }

/-- The end of what belongs to a document. -/
def endContent (s : Lexer) : Except Fault Lexer := do
  let s ← s.closeAllBlocks.dropKey
  return { s with keyAllowed := false }

def lexEnd (s : Lexer) : Except Fault Lexer := do
  return (← s.endContent).emit .streamEnd s.cursor.mark

def lexDirective (s : Lexer) : Except Fault Lexer := do
  let s ← s.endContent
  let (content, next) ← s.cursor.advance.directive
  return { s with cursor := next }.emit (.directive content) s.cursor.mark

def lexDocumentMarker (s : Lexer) (kind : TokenKind) : Except Fault Lexer := do
  return (← s.endContent).emitNext kind 3

def lexFlowStart (s : Lexer) (kind : TokenKind) : Except Fault Lexer := do
  let s ← s.noteKey
  return { s with depth := s.depth + 1, keyAllowed := true }.emitNext kind 1

def lexFlowEnd (s : Lexer) (kind : TokenKind) : Except Fault Lexer := do
  if !s.inFlow then refuse .unexpectedToken
  else
    let s ← s.dropKey
    return { s with depth := s.depth - 1, keyAllowed := false }.emitNext kind 1

def lexFlowEntry (s : Lexer) : Except Fault Lexer := do
  return { ← s.dropKey with keyAllowed := true }.emitNext .flowEntry 1

def lexBlockEntry (s : Lexer) : Except Fault Lexer := do
  if !s.inFlow && !s.keyAllowed then refuse .misplacedEntry
  else
    let s := if s.inFlow then s else s.openBlock .blockSequenceStart
    return { ← s.dropKey with keyAllowed := true }.emitNext .blockEntry 1

/-- A key that is announced by a question mark. -/
def lexKey (s : Lexer) : Except Fault Lexer := do
  if !s.inFlow && !s.keyAllowed then refuse .misplacedKey
  else
    let s := if s.inFlow then s else s.openBlock .blockMappingStart
    return { ← s.dropKey with keyAllowed := !s.inFlow }.emitNext .key 1

/-- The lexer with the tokens of a key put in where it started. -/
def announceKey (s : Lexer) (k : PossibleKey) : Lexer :=
  let token (kind : TokenKind) : Token := ⟨kind, k.mark, k.mark⟩
  let tokens := s.tokens.insertIdxIfInBounds k.position (token .key)
  if !s.inFlow && s.isDeeper k.mark.column then
    { s with
      tokens := tokens.insertIdxIfInBounds k.position (token .blockMappingStart)
      blocks := k.mark.column :: s.blocks }
  else { s with tokens := tokens }

/-- The colon before a value, whose key may be missing. -/
def lexValue (s : Lexer) : Except Fault Lexer :=
  match s.keys.lookup s.depth with
  | some k =>
    let s := { s with keys := s.keys.filter fun k => k.1 ≠ s.depth }.announceKey k
    .ok ({ s with keyAllowed := false }.emitNext .value 1)
  | none =>
    if !s.inFlow && !s.keyAllowed then refuse .misplacedValue
    else
      let s := if s.inFlow then s else s.openBlock .blockMappingStart
      .ok ({ s with keyAllowed := !s.inFlow }.emitNext .value 1)

/-- A token that may start a key and after which none may start. -/
def lexNode (s : Lexer) (read : Cursor → Except Fault (TokenKind × Cursor)) : Except Fault Lexer := do
  let s ← s.noteKey
  let (kind, next) ← read s.cursor
  return { s with keyAllowed := false, cursor := next }.emit kind s.cursor.mark

def lexBlockText (s : Lexer) (folded : Bool) : Except Fault Lexer := do
  let s ← s.dropKey
  let (text, next) ← s.cursor.advance.blockText folded (max s.contentColumn 1)
  return { s with keyAllowed := true, cursor := next }.emit
    (.scalar (String.ofList text) false) s.cursor.mark

def lexQuotedText (s : Lexer) (isDouble : Bool) : Except Fault Lexer :=
  s.lexNode fun c => do
    let (text, next) ← c.advance.quotedText isDouble c.rest.length
    return (.scalar (String.ofList text) false, next)

def lexPlainText (s : Lexer) : Except Fault Lexer := do
  let s ← s.noteKey
  match s.cursor.plainText s.inFlow s.contentColumn s.cursor.rest.length with
  | none => refuse .noSuchToken
  | some t =>
    let token : Token := ⟨.scalar (String.ofList t.text) true, s.cursor.mark, t.stop⟩
    return { s with
      keyAllowed := t.gap.crossesLines
      cursor := t.gap.cursor
      tokens := s.tokens.push token }

/-- Whether a plain text may start with a character before another one. -/
def startsPlain (inFlow : Bool) (x following : Char) : Bool :=
  !(isSeparator x || "-?:,[]\x7b\x7d#&*!|>'\"%@`".toList.contains x) ||
  (!isSeparator following && (x == '-' || (!inFlow && (x == '?' || x == ':'))))

/-- The lexer after the next token, which starts here. -/
def lexToken (s : Lexer) : Except Fault Lexer :=
  let c := s.cursor
  let x := c.peek
  let beforeSeparator := isSeparator (c.peekAt 1)
  if x == endOfText then s.lexEnd
  else if x == '%' && c.column = 0 then s.lexDirective
  else if c.column = 0 && c.isAtMarker '-' then s.lexDocumentMarker .documentStart
  else if c.column = 0 && c.isAtMarker '.' then s.lexDocumentMarker .documentEnd
  else if x == '[' then s.lexFlowStart .flowSequenceStart
  else if x == '\x7b' then s.lexFlowStart .flowMappingStart
  else if x == ']' then s.lexFlowEnd .flowSequenceEnd
  else if x == '\x7d' then s.lexFlowEnd .flowMappingEnd
  else if x == ',' then s.lexFlowEntry
  else if x == '-' && beforeSeparator then s.lexBlockEntry
  else if x == '?' && (s.inFlow || beforeSeparator) then s.lexKey
  else if x == ':' && (s.inFlow || beforeSeparator) then s.lexValue
  else if x == '*' then
    s.lexNode fun c => (c.advance.anchorName).map fun (name, next) => (.alias name, next)
  else if x == '&' then
    s.lexNode fun c => (c.advance.anchorName).map fun (name, next) => (.anchor name, next)
  else if x == '!' then s.lexNode fun c => c.tag.map fun (written, next) => (.tag written, next)
  else if x == '|' && !s.inFlow then s.lexBlockText false
  else if x == '>' && !s.inFlow then s.lexBlockText true
  else if x == '\'' then s.lexQuotedText false
  else if x == '"' then s.lexQuotedText true
  else if startsPlain s.inFlow x (c.peekAt 1) then s.lexPlainText
  else refuse .noSuchToken

/-- The lexer at the end of the text. -/
def run : Nat → Lexer → Except Fault Lexer
  | 0, s => .ok s
  | fuel + 1, s => do
    let s ← (s.skipToToken s.cursor.rest.length.succ).dropStaleKeys
    let s ← s.closeInnerBlocks.lexToken
    if s.tokens.back?.any fun t => t.kind == .streamEnd then return s else s.run fuel

end Lexer

/-- The cursor at the start of a text, after a byte order mark. -/
def Cursor.start (s : List Char) : Cursor :=
  let c : Cursor := ⟨s, {}⟩
  if c.peek == byteOrderMark then c.advance else c

/-- The tokens of a text; the last one is its end. -/
def tokens (text : String) : Except Fault (List Token) := do
  let s := text.toList
  if !s.all isPrintable then refuse .unprintableCharacter
  else
    let final ← Lexer.run s.length.succ { cursor := Cursor.start s }
    return final.tokens.toList

end SchemaReview.Yaml
