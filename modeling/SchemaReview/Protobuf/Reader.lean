import SchemaReview.Failure
import SchemaReview.Protobuf.Block
import SchemaReview.Protobuf.Comment
import SchemaReview.Protobuf.Line
import SchemaReview.Schema.Basic

/-!
# Interface definitions

Only the skeleton of a text is read: its syntax level, its package, and its messages and enums with
their fields and values. Nested declarations are lifted to the file, each under the dotted path of
the blocks around it. Types are not resolved; everything else is skipped.
-/
namespace SchemaReview.Protobuf

def scalarTypes : List String :=
  ["double", "float", "int32", "int64", "uint32", "uint64", "sint32", "sint64", "fixed32",
   "fixed64", "sfixed32", "sfixed64", "bool", "string", "bytes"]

/-- First words of statements that declare no field. -/
def skippedWords : List String :=
  ["option", "reserved", "extensions", "import", "syntax", "package", "edition"]

def missingSyntaxMessage : String := "Missing syntax declaration"

def missingPackageMessage : String := "Missing package declaration"

/-- The first value that a top-level statement gives. -/
def topLevelValue? (read : List Char → Option (List Char)) (items : List Item) : Option String :=
  items.findSome? fun item =>
    match item with
    | .statement text _ => (read text).map String.ofList
    | .block .. => none

/-- The type of a name: a scalar or a reference, without the dots that start it. -/
def namedType (name : List Char) : Schema :=
  let text := String.ofList (name.dropWhile (· == '.'))
  if scalarTypes.contains text then { kind := .primitive, typeName := some text }
  else { kind := .reference, typeName := some text }

def TypeText.schema (t : TypeText) : Schema :=
  match t.mapValue with
  | some value => { kind := .map, values := some (namedType value) }
  | none => namedType t.text

/-- A statement of a message, and whether it stands in a group of alternatives. -/
structure MemberLine where
  text : List Char
  offset : Nat
  inOneof : Bool
deriving Repr

def isOneofHeader (header : List Char) : Bool := "oneof ".toList.isPrefixOf header

/-- The statements of a message, those of its groups of alternatives included. -/
def memberLines (children : List Item) : List MemberLine :=
  children.flatMap fun child =>
    match child with
    | .statement text offset => [⟨text, offset, false⟩]
    | .block header _ inner =>
      if isOneofHeader header then
        inner.filterMap fun item =>
          match item with
          | .statement text offset => some ⟨text, offset, true⟩
          | .block .. => none
      else []

def firstWord (text : List Char) : String := String.ofList (text.takeWhile fun c => c != ' ')

/-- The field that a line declares, if it declares one. -/
def MemberLine.field? (line : MemberLine) (syntaxLevel : Option String) : Option Field :=
  if skippedWords.contains (firstWord line.text) then none
  else do
    let parsed ← Protobuf.field? line.text
    let label := parsed.label.or (if line.inOneof then some "oneof" else none)
    let type := parsed.type.schema
    let type : Schema :=
      if label = some "repeated" then { kind := .array, items := some type } else type
    return {
      name := String.ofList parsed.name, type := type,
      hasDefault := label ≠ some "required" || syntaxLevel = some "proto3",
      tag := (Text.digitsValue? parsed.number).map Int.ofNat, label := label,
      raw := some (String.ofList line.text) }

/-- The fields of lines, after those already read. -/
def fieldsOf (message : String) (syntaxLevel : Option String) :
    List MemberLine → List Field → Except ParseError (List Field)
  | [], done => .ok done
  | line :: rest, done =>
    match line.field? syntaxLevel with
    | none => fieldsOf message syntaxLevel rest done
    | some f =>
      if done.any fun g => g.name == f.name then
        .error ⟨.protobuf (.duplicateField f.name message), some line.offset,
          [.name message, .name f.name]⟩
      else fieldsOf message syntaxLevel rest (done ++ [f])

def messageOf (name : String) (package syntaxLevel : Option String) (children : List Item) :
    Except ParseError Schema := do
  let fields ← fieldsOf name syntaxLevel (memberLines children) []
  return { kind := .message, name := .str name, qualifier := package, fields := fields }

/-- The symbols and values of an enum's statements, after those already read. -/
def enumEntries (enum : String) :
    List Item → List (String × Int) → Except ParseError (List (String × Int))
  | [], done => .ok done
  | .statement text offset :: rest, done =>
    match enumValue? text with
    | none => enumEntries enum rest done
    | some (symbol, number) =>
      let symbol := String.ofList symbol
      if done.any fun e => e.1 == symbol then
        .error ⟨.protobuf (.duplicateValue symbol enum), some offset, [.name enum]⟩
      else enumEntries enum rest (done ++ [(symbol, number.value)])
  | .block .. :: rest, done => enumEntries enum rest done

def enumOf (name : String) (package : Option String) (children : List Item) :
    Except ParseError Schema := do
  let entries ← enumEntries name children []
  return {
    kind := .enum, name := .str name, qualifier := package, symbols := entries.map (·.1),
    symbolValues := entries.map (·.2) }

/-- A name below another one. -/
def below (outer : Option String) (name : String) : String :=
  match outer with
  | some o => if o = "" then name else o ++ "." ++ name
  | none => name

/-- The declarations so far with one more, whose key must be new. -/
def declare (done : List Field) (key : String) (type : Schema) (header : List Char)
    (offset : Nat) : Except ParseError (List Field) :=
  if done.any fun d => d.name == key then
    .error ⟨.protobuf (.redeclared key), some offset, [.name key]⟩
  else .ok (done ++ [{ name := key, type := type, raw := some (String.ofList header) }])

/-- The declarations of items, nested ones included, after those already found. -/
def declarationsOf (syntaxLevel : Option String) :
    List Item → (package outer : Option String) → List Field → Except ParseError (List Field)
  | [], _, _, done => .ok done
  | .statement .. :: rest, package, outer, done =>
    declarationsOf syntaxLevel rest package outer done
  | .block header offset children :: rest, package, outer, done => do
    match blockHeader? header with
    | some (keyword, nameChars) =>
      let name := String.ofList nameChars
      let key := below outer name
      if keyword = "message" then
        let type ← messageOf name package syntaxLevel children
        let done ← declare done key type header offset
        let done ← declarationsOf syntaxLevel children (some (below package name)) (some key) done
        declarationsOf syntaxLevel rest package outer done
      else if keyword = "enum" then
        let type ← enumOf name package children
        let done ← declare done key type header offset
        declarationsOf syntaxLevel rest package outer done
      else declarationsOf syntaxLevel rest package outer done
    | none => declarationsOf syntaxLevel rest package outer done
termination_by items => sizeOf items
decreasing_by
  all_goals
    simp only [List.cons.sizeOf_spec, Item.block.sizeOf_spec]
    omega

/-- The document of an interface definition. -/
def ofText (text : String) : Except ParseError Document := do
  if Text.isBlankText text then throw { fault := .emptyText }
  let items ←
    match scan (stripComments text.toList) with
    | .ok items => pure items
    | .error e => throw { fault := .protobuf e.fault, offset := some e.offset }
  let syntaxLevel := topLevelValue? syntaxValue? items
  let package := topLevelValue? packageName? items
  let warning (message : String) : Issue :=
    { ruleId := "parse", severity := .warning, message := message }
  let warnings :=
    (if syntaxLevel.isNone then [warning missingSyntaxMessage] else []) ++
    (if package.isNone then [warning missingPackageMessage] else [])
  let fields ← declarationsOf syntaxLevel items package none []
  return {
    format := .protobuf, root := { kind := .file, qualifier := package, fields := fields },
    syntaxLevel := syntaxLevel, package := package, warnings := warnings }

end SchemaReview.Protobuf
