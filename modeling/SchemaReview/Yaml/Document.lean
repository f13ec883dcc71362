import SchemaReview.Yaml.Grammar
import SchemaReview.Yaml.Lexer
import SchemaReview.Yaml.SourceMap
import SchemaReview.Yaml.Value

/-!
# Documents

A text holds at most one document, which may be introduced by directives: a version, which has to
be one that is known, and handles of tags.
-/
namespace SchemaReview.Yaml
namespace Reader

/-- The handles that directives define, and whether they declare a version. -/
structure Directives where
  handles : List (String × String) := []
  hasVersion : Bool := false

def directives (d : Directives) : List Directive → Except Fault Directives
  | [] => .ok d
  | .version major :: rest =>
    if d.hasVersion then refuse .repeatedDirective
    else if major ≠ 1 then refuse .unsupportedVersion
    else directives { d with hasVersion := true } rest
  | .tagHandle handle expansion :: rest =>
    if (d.handles.lookup handle).isSome then refuse .repeatedDirective
    else directives { d with handles := d.handles ++ [(handle, expansion)] } rest
  | .reserved :: rest => directives d rest

def directive? (t : Token) : Option Directive :=
  match t.kind with
  | .directive d => some d
  | _ => none

/-- The content of a document that is introduced by a marker. -/
def markedContent (fuel : Nat) : Reader Node := do
  let token ← next
  match token.kind with
  | .directive _ => return empty token.start
  | .documentStart => return empty token.start
  | .documentEnd => return empty token.start
  | .streamEnd => return empty token.start
  | _ => node true false fuel

/-- The only document, if there is one. -/
def document : Reader (Option Node) := do
  let fuel := 4 * (← get).tokens.length + 8
  match ← nextKind with
  | .streamEnd => return none
  | .directive _ => some <$> marked fuel
  | .documentStart => some <$> marked fuel
  | _ => some <$> node true false fuel
where
  /-- A document with a marker, before which there may be directives. -/
  marked (fuel : Nat) : Reader Node := do
    let written := (← get).tokens.takeWhile fun t => (directive? t).isSome
    let d ← directives {} (written.filterMap directive?)
    modify fun s => { s with
      tokens := s.tokens.drop written.length
      handles := d.handles ++ defaultHandles }
    expect .documentStart
    markedContent fuel

/-- Passes over the end of a document and of the text. -/
def finish : Reader Unit := do
  modify fun s => { s with tokens := s.tokens.dropWhile fun t => t.kind = .documentEnd }
  if (← nextKind) ≠ .streamEnd then refused .severalDocuments

end Reader

/-- The document that a text holds, if it holds one. -/
def compose (text : String) : Except Fault (Option Node) := do
  let tokens ← tokens text
  let run : Reader (Option Node) := do
    let root ← Reader.document
    Reader.finish
    return root
  return (← run.run { tokens := tokens }).1

/-- The plain data that a text spells; a text without a document is null. -/
def load (text : String) : Except Fault Datum := do
  match ← compose text with
  | none => return .null
  | some root => root.value

/-- The places of the nodes of a text. An unreadable text has none. -/
def SourceMap.ofText (text : String) : SourceMap :=
  match compose text with
  | .ok (some root) => .ofNode root
  | _ => {}

end SchemaReview.Yaml
