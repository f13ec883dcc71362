import SchemaReview.Text.Utf8
import SchemaReview.Yaml.FlowText
import SchemaReview.Yaml.Token

/-!
# Anchors, tags and directives

What is written before a node or before a document. The name of a tag may hold escaped octets, which
together are a text in UTF-8.
-/
namespace SchemaReview.Yaml

def isNameEnd (c : Char) : Bool := isSeparator c || "?:,]\x7d%@`".toList.contains c

/-- The characters of the name of a tag. -/
def isTagChar (c : Char) : Bool := c.isAlphanum || "-;/?:@&=+$,_.!~*'()[]%".toList.contains c

namespace Cursor

/-- The name after the sign of an anchor or alias. -/
def anchorName (c : Cursor) : Except Fault (String × Cursor) :=
  let (name, c) := c.span isNameChar
  if name.isEmpty || !isNameEnd c.peek then refuse .malformedAnchor
  else .ok (String.ofList name, c)

/-- The octets of the escapes here. -/
def escapedOctets : Nat → Cursor → Except Fault (List UInt8 × Cursor)
  | 0, c => .ok ([], c)
  | fuel + 1, c =>
    if c.peek != '%' then .ok ([], c)
    else
      match hexNumber? [c.peekAt 1, c.peekAt 2] with
      | none => refuse .malformedTag
      | some n => do
        let (octets, last) ← escapedOctets fuel (c.skip 3)
        return (n.toUInt8 :: octets, last)

/-- The characters of the name of a tag. -/
def tagChars : Nat → Cursor → Except Fault (List Char × Cursor)
  | 0, c => .ok ([], c)
  | fuel + 1, c =>
    if c.peek == '%' then do
      let (octets, next) ← c.escapedOctets c.rest.length
      match Text.decodeUtf8 octets with
      | .error _ => refuse .malformedTag
      | .ok chars =>
        let (others, last) ← tagChars fuel next
        return (chars ++ others, last)
    else if isTagChar c.peek then do
      let (others, last) ← tagChars fuel c.advance
      return (c.peek :: others, last)
    else .ok ([], c)

/-- The name of a tag, which may not be missing. -/
def tagName (c : Cursor) : Except Fault (String × Cursor) := do
  if !isTagChar c.peek then refuse .malformedTag
  else
    let (name, c) ← tagChars c.rest.length c
    return (String.ofList name, c)

/-- The handle of a tag: a mark of exclamation, or a name between two of them. -/
def tagHandle (c : Cursor) : Except Fault (String × Cursor) :=
  if c.peek != '!' then refuse .malformedTag
  else if c.peekAt 1 == ' ' then .ok ("!", c.advance)
  else
    let (name, stop) := c.advance.span isNameChar
    if stop.peek == '!' then .ok (String.ofList ('!' :: name ++ ['!']), stop.advance)
    else refuse .malformedTag

/-- The tag that starts here. -/
def tag (c : Cursor) : Except Fault (WrittenTag × Cursor) := do
  let (written, c) ←
    if c.peekAt 1 == '<' then do
      let (name, c) ← (c.skip 2).tagName
      if c.peek == '>' then pure (WrittenTag.verbatim name, c.advance) else refuse .malformedTag
    else if isSeparator (c.peekAt 1) then pure (WrittenTag.verbatim "!", c.advance)
    else do
      let word := c.rest.tail.takeWhile fun x => !isSpaceOrEnd x
      let (handle, c) ← if word.contains '!' then c.tagHandle else pure ("!", c.advance)
      let (rest, c) ← c.tagName
      pure (WrittenTag.short handle rest, c)
  if isSpaceOrEnd c.peek then return (written, c) else refuse .malformedTag

def directiveNumber (c : Cursor) : Except Fault (Nat × Cursor) :=
  let (digits, c) := c.span Char.isDigit
  if digits.isEmpty then refuse .malformedDirective else .ok (Text.digitsNat digits, c)

/-- The version that a directive declares, of which only the first number counts. -/
def versionDirective (c : Cursor) : Except Fault (Directive × Cursor) := do
  let (major, c) ← c.skipSpaces.directiveNumber
  if c.peek != '.' then refuse .malformedDirective
  else
    let (_, c) ← c.advance.directiveNumber
    if isSpaceOrEnd c.peek then return (.version major, c) else refuse .malformedDirective

def tagDirective (c : Cursor) : Except Fault (Directive × Cursor) := do
  let (handle, c) ← c.skipSpaces.tagHandle
  if c.peek != ' ' then refuse .malformedDirective
  else
    let (expansion, c) ← c.skipSpaces.tagName
    if isSpaceOrEnd c.peek then return (.tagHandle handle expansion, c)
    else refuse .malformedDirective

/-- The directive after its sign, up to the end of the line. -/
def directive (c : Cursor) : Except Fault (Directive × Cursor) := do
  let (name, c) := c.span isNameChar
  if name.isEmpty || !isSpaceOrEnd c.peek then refuse .malformedDirective
  else
    let (content, c) ←
      if name == "YAML".toList then c.versionDirective
      else if name == "TAG".toList then c.tagDirective
      else pure (Directive.reserved, c.skipWhile fun x => !isBreak x)
    return (content, ← c.finishLine .malformedDirective)

end Cursor
end SchemaReview.Yaml
