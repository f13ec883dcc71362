import SchemaReview.Failure
import SchemaReview.Lint.Rule
import SchemaReview.Schema.Checked
import SchemaReview.Schema.Walk

/-!
# What rules report

The check of each rule at a visited node. A finding has a message, a path below the node, and a
severity of its own where the rule has a hard and a soft way to fail.
-/
namespace SchemaReview.Lint

structure Finding where
  message : String
  path : Path := []
  severity : Option Severity := none
deriving DecidableEq, Repr

abbrev Findings := Except Failure (List Finding)

/-- Whether a documentation is missing or blank. Only texts can be blank. -/
def isUndocumented (documentation : Json) : Except Failure Bool :=
  if !documentation.isTruthy then .ok true
  else
    match documentation with
    | .str s => .ok (Text.isBlankText s)
    | other => throw (.noAttribute other.typeName "strip")

/-- A failure of an option as one of the whole check. -/
def failOption {α : Type} : Except OptionFault α → Except Failure α
  | .ok a => .ok a
  | .error f => .error (f.failure (.option f))

/-- A failure of a match as one of the whole check. -/
def failMatch {α : Type} : Except Pattern.Fault α → Except Failure α
  | .ok a => .ok a
  | .error f => .error (.pattern f)

/-- The convention that the options give, or a default one. -/
def optionConvention (options : Options) (default : String) : Except Failure Convention :=
  let text := match Datum.textEntry? options "pattern" with
    | some value => value.text
    | none => default
  failOption (Convention.ofText text)

/-- Whether a name follows a convention; names that are not texts cannot be tested. -/
def nameFollows (c : Convention) (name : Json) : Except Failure Bool :=
  if !name.isTruthy then .ok false
  else
    match name with
    | .str s => failMatch (c.accepts s)
    | other => throw (.type (.notText other.typeName))

/-- Primitive types other than fixed have no name and are no named types. -/
def isAvroNamed (node : Schema) : Bool := node.name.isTruthy || node.kind != .primitive

def one (message : String) : List Finding := [{ message := message }]

def checkNamespace (node : Schema) : List Finding :=
  if isAvroNamed node && (node.qualifier.getD "") == "" then one "Missing namespace" else []

def checkDoc (node : Schema) (path : Path) : Findings := do
  if !isAvroNamed node then return []
  if ← isUndocumented node.documentation then
    if path.isEmpty then return one "Missing documentation"
    else return one ("Type '" ++ node.label ++ "' missing documentation")
  else return []

/-- The findings at the fields of a node. -/
def atFields (fields : List Field) (test : Field → Except Failure Bool) (message : Field → String) :
    Findings :=
  match fields with
  | [] => return []
  | f :: rest => do
    let here : List Finding :=
      if ← test f then [{ message := message f, path := [.name f.name] }] else []
    return here ++ (← atFields rest test message)

def checkFieldDoc (node : Schema) : Findings :=
  atFields node.fields (fun f => isUndocumented f.documentation)
    fun f => "Field '" ++ f.name ++ "' missing documentation"

def checkNaming (node : Schema) (options : Options) : Findings := do
  if !node.name.isTruthy then return []
  let c ← optionConvention options "camelCase"
  if ← nameFollows c node.name then return []
  else return one ("Name '" ++ node.name.toText ++ "' does not follow " ++ c.label ++ " convention")

def checkEnumSymbols (node : Schema) (options : Options) : Findings := do
  if node.symbols.isEmpty then return []
  let c ← optionConvention options "UPPERCASE"
  let refused ← node.symbols.filterM fun s => do return !(← failMatch (c.accepts s))
  return refused.map fun s => { message := "Enum symbol '" ++ s ++ "' should be uppercase" }

/-- Each branch is reported once, at the first record below the limit. -/
def checkNestingDepth (depth : Nat) (options : Options) : List Finding :=
  match (Datum.textEntry? options "limit").getD (.int 5) with
  | .int limit =>
    if (depth : Int) = limit + 1 then
      one ("Nesting depth " ++ toString depth ++ " exceeds the maximum of " ++ toString limit)
    else []
  | _ => []

def checkPackage (d : Document) : List Finding :=
  if (d.package.getD "") == "" then one "Missing package declaration" else []

def checkSyntax (d : Document) (options : Options) : List Finding :=
  match d.syntaxLevel with
  | none => [{ message := "Missing syntax declaration", severity := some .error }]
  | some level =>
    let expected := (Datum.textEntry? options "expected").getD (.str "proto3")
    if expected.sameKey (.str level) then []
    else one ("Expected syntax '" ++ expected.text ++ "', found '" ++ level ++ "'")

def checkMessageNaming (node : Schema) (options : Options) : Findings := do
  let c ← optionConvention options "PascalCase"
  if ← nameFollows c node.name then return []
  else
    return one ("Message '" ++ node.name.toText ++ "' does not follow " ++ c.label ++
      " convention")

def checkEnumZero (node : Schema) : List Finding :=
  if !node.symbols.isEmpty && !node.symbolValues.contains 0 then
    one ("Enum '" ++ node.name.toText ++ "' should have a zero value")
  else []

def checkFieldNaming (node : Schema) (options : Options) : Findings := do
  let c ← optionConvention options "snake_case"
  atFields node.fields (fun f => return !(← failMatch (c.accepts f.name))) fun f =>
    "Field '" ++ f.name ++ "' in message '" ++ node.name.toText ++ "' does not follow " ++
      c.label ++ " convention"

def checkFieldNumbers (node : Schema) : List Finding :=
  let tags := node.fields.filterMap (·.tag)
  let expected : List Int := (List.range tags.length).map fun i => Int.ofNat i + 1
  if tags = expected then []
  else
    one ("Field numbers of message '" ++ node.name.toText ++ "' are not sequential: " ++
      (Json.arr (tags.map .int)).shown)

def checkSchemaVersion (d : Document) : List Finding :=
  if (d.schemaUri.getD "") == "" then one "Missing $schema declaration" else []

def checkTitle (node : Schema) : List Finding :=
  if node.name.isTruthy then [] else one "Missing title"

def checkDescription (node : Schema) : Findings := do
  if ← isUndocumented node.documentation then return one "Missing description" else return []

def checkAdditionalProperties (node : Schema) : List Finding :=
  if node.additionalProperties = some false then []
  else one "Consider setting additionalProperties to false"

/-- What a rule reports at a visit of a document. -/
def RuleId.check (id : RuleId) (d : Document) (v : Visit) (options : Options) : Findings :=
  match id with
  | .namespaceRequired => .ok (checkNamespace v.node)
  | .docRequired => checkDoc v.node v.path
  | .fieldDocRequired => checkFieldDoc v.node
  | .namingConvention => checkNaming v.node options
  | .enumUppercase => checkEnumSymbols v.node options
  | .maxNestingDepth => .ok (checkNestingDepth v.depth options)
  | .packageRequired => .ok (checkPackage d)
  | .syntaxVersion => .ok (checkSyntax d options)
  | .messageNaming => checkMessageNaming v.node options
  | .enumZeroValue => .ok (checkEnumZero v.node)
  | .fieldNaming => checkFieldNaming v.node options
  | .fieldNumbersSequential => .ok (checkFieldNumbers v.node)
  | .schemaVersionRequired => .ok (checkSchemaVersion d)
  | .titleRequired => .ok (checkTitle v.node)
  | .descriptionRequired => checkDescription v.node
  | .additionalProperties => .ok (checkAdditionalProperties v.node)

/-- Whether a rule looks at a visit. -/
def Rule.applies (r : Rule) (v : Visit) : Bool :=
  (!r.rootOnly || v.path.isEmpty) && r.appliesTo.contains v.node.kind

end SchemaReview.Lint
