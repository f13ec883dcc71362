import SchemaReview.Yaml.Fault
import SchemaReview.Yaml.ImplicitTag
import SchemaReview.Yaml.Node
import SchemaReview.Yaml.Token

/-!
# Reading tokens

What is left of a list of tokens, and the properties that may stand before a node: an anchor and a
tag, whose handle is expanded as the directives say.
-/
namespace SchemaReview.Yaml

/-- The handles that need no directive. -/
def defaultHandles : List (String × String) := [("!", "!"), ("!!", Tag.standardNamespace)]

/-- What is left of the tokens, and what the tokens before have set up. -/
structure DocumentState where
  tokens : List Token
  handles : List (String × String) := defaultHandles
  /-- The nodes with anchors; a node that is still being read has no tree yet. -/
  anchors : List (String × Option Node) := []

abbrev Reader := StateT DocumentState (Except Fault)

namespace Reader

def refused {α : Type} (problem : Problem) : Reader α := throw (.unreadable problem)

def next : Reader Token := return (← get).tokens.headD default

def nextKind : Reader TokenKind := return (← next).kind

/-- Passes over the next token. -/
def take : Reader Token := do
  let token ← next
  modify fun s => { s with tokens := s.tokens.tail }
  return token

/-- Passes over the next token if it is of a kind. -/
def accept (kind : TokenKind) : Reader Bool := do
  if (← nextKind) = kind then
    let _ ← take
    return true
  else return false

def expect (kind : TokenKind) : Reader Unit := do
  if !(← accept kind) then refused .unexpectedToken

def setAnchor (name : Option String) (node : Option Node) : Reader Unit :=
  match name with
  | none => return
  | some name => modify fun s => { s with anchors := (name, node) :: s.anchors }

/-- The scalar that stands for nothing. -/
def empty (place : Mark) : Node := .scalar .null "" place

/-- The name of a tag as it is written, with its handle expanded. -/
def expandTag (written : WrittenTag) : Reader String :=
  match written with
  | .verbatim name => return name
  | .short handle rest => do
    match (← get).handles.lookup handle with
    | some expansion => return expansion ++ rest
    | none => refused .undefinedTagHandle

/-- What is written before a node. -/
structure Properties where
  anchor : Option String := none
  tag : Option String := none
  start : Option Mark := none

def takeAnchor (p : Properties) : Reader Properties := do
  let token ← next
  match token.kind with
  | .anchor name =>
    let _ ← take
    return { p with anchor := some name, start := p.start.or (some token.start) }
  | _ => return p

def takeTag (p : Properties) : Reader (Properties × Option WrittenTag) := do
  let token ← next
  match token.kind with
  | .tag written =>
    let _ ← take
    return ({ p with start := p.start.or (some token.start) }, some written)
  | _ => return (p, none)

/-- The anchor and the tag of a node, in either order. -/
def properties : Reader Properties := do
  let (p, written) ←
    match ← nextKind with
    | .tag _ => do
      let (p, written) ← takeTag {}
      pure (← takeAnchor p, written)
    | _ => takeTag (← takeAnchor {})
  match written with
  | none => return p
  | some written => return { p with tag := some (← expandTag written) }

/-- The tag of a node whose written tag is absent or leaves it open. -/
def tagOr (written : Option String) (implied : Tag) : Tag :=
  match written with
  | none => implied
  | some "!" => implied
  | some name => Tag.ofName name

/-- The tag of a scalar: one that is quoted is a string unless it says otherwise. -/
def scalarTag (written : Option String) (text : String) (isPlain : Bool) : Tag :=
  match written with
  | none => if isPlain then Tag.ofPlain text else .str
  | some "!" => Tag.ofPlain text
  | some name => Tag.ofName name

end Reader
end SchemaReview.Yaml
