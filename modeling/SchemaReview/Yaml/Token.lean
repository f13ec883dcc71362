import SchemaReview.Yaml.Cursor

/-!
# Tokens

The words of a document. Block collections have no brackets of their own: their start and end
tokens are found from the indentation.
-/
namespace SchemaReview.Yaml

/-- A tag as it is written: a handle with a rest, or the whole name. -/
inductive WrittenTag where
  | verbatim (name : String)
  | short (handle rest : String)
deriving DecidableEq, Repr

inductive Directive where
  | version (major : Nat)
  | tagHandle (handle expansion : String)
  | reserved
deriving DecidableEq, Repr

inductive TokenKind where
  | streamEnd
  | directive (content : Directive)
  | documentStart
  | documentEnd
  | blockSequenceStart
  | blockMappingStart
  | blockEnd
  | flowSequenceStart
  | flowMappingStart
  | flowSequenceEnd
  | flowMappingEnd
  | blockEntry
  | flowEntry
  | key
  | value
  | alias (name : String)
  | anchor (name : String)
  | tag (written : WrittenTag)
  | scalar (text : String) (isPlain : Bool)
deriving DecidableEq, Repr

structure Token where
  kind : TokenKind
  start : Mark
  stop : Mark
deriving DecidableEq, Repr

instance : Inhabited Token := ⟨⟨.streamEnd, {}, {}⟩⟩

end SchemaReview.Yaml
