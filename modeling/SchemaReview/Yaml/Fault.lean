import SchemaReview.Failure

/-!
# Why a document cannot be read

A document is unreadable when it breaks a rule of the format. Some values are well formed and still
stand for nothing, such as the thirteenth month; these are failures of their own.
-/
namespace SchemaReview.Yaml

/-- The rules of the format that a document can break. -/
inductive Problem where
  | unprintableCharacter
  | noSuchToken
  | keyWithoutColon
  | misplacedEntry
  | misplacedKey
  | misplacedValue
  | malformedDirective
  | malformedAnchor
  | malformedTag
  | malformedBlockHeader
  | unknownEscape
  | unclosedText
  | separatorInsideText
  | unexpectedToken
  | repeatedDirective
  | unsupportedVersion
  | undefinedTagHandle
  | undefinedAlias
  | repeatedAnchor
  | severalDocuments
  | unknownTag
  | unfitNode
  | unhashableKey
  | unmergeable
  | malformedBinary
deriving DecidableEq, Repr

inductive Fault where
  | unreadable (problem : Problem)
  | failed (failure : Failure)
deriving DecidableEq, Repr

/-- The refusal of a document for a problem. -/
def refuse {α : Type} (problem : Problem) : Except Fault α := .error (.unreadable problem)

end SchemaReview.Yaml
