import SchemaReview.Avro.Reader
import SchemaReview.JsonSchema.Reader
import SchemaReview.Protobuf.Reader

/-!
# Parsing schema texts
-/
namespace SchemaReview

/-- The JSON value of a schema text. -/
def jsonOfSchemaText (text : String) : Except ParseError Json :=
  if Text.isBlankText text then .error { fault := .emptyText }
  else
    match Json.ofText text with
    | .ok value => .ok value
    | .error e => .error { fault := .notJson e.fault, offset := some e.offset }

/-- An error of parsing as a failure of the whole operation. -/
def failParse {α : Type} : Except ParseError α → Except Failure α
  | .ok a => .ok a
  | .error e => .error (.parse e)

/-- The document of a schema text in a known language. -/
def parse (text : String) (format : Format) : Except Failure Document :=
  match format with
  | .avro => failParse do
    let value ← jsonOfSchemaText text
    return { format := .avro, root := ← Avro.ofJson value }
  | .protobuf => failParse (Protobuf.ofText text)
  | .jsonSchema => do
    let value ← failParse (jsonOfSchemaText text)
    JsonSchema.ofJson value

/-- The document of a schema text whose language is given by a word. -/
def parseAs (text : String) (word : String) : Except Failure Document :=
  match Format.ofText? word with
  | some format => parse text format
  | none => .error (.parse { fault := .unknownFormat word })

end SchemaReview
