import SchemaReview.Datum
import SchemaReview.Lint.Fault
import SchemaReview.Pattern.Expression
import SchemaReview.Schema.Basic

/-!
# Rules

The catalog of lint rules: for each its language, the kinds of nodes it looks at, its default
severity and options, and how its options are checked.

A naming convention is one of five presets or a pattern of the user's own. A name follows it when
the pattern matches at the start of the name; the empty name follows none.
-/
namespace SchemaReview.Lint

/-! ### Naming conventions -/

/-- The presets and their patterns. -/
def presets : List (String × String) :=
  [("camelCase", "^[a-z][a-zA-Z0-9]*$"),
   ("PascalCase", "^[A-Z][a-zA-Z0-9]*$"),
   ("snake_case", "^[a-z][a-z0-9_]*$"),
   ("SCREAMING_SNAKE_CASE", "^[A-Z][A-Z0-9_]*$"),
   ("UPPERCASE", "^[A-Z_]+$")]

/-- A convention that is ready to be tested, and what messages call it. -/
structure Convention where
  expression : Pattern.Expression
  label : String

/-- The convention that a preset's name or a pattern stands for. -/
def Convention.ofText (text : String) : Except OptionFault Convention :=
  let (pattern, label) := match presets.lookup text with
    | some p => (p, text)
    | none => (text, "'" ++ text ++ "'")
  match Pattern.Expression.ofText pattern with
  | .ok expression => .ok ⟨expression, label⟩
  | .error e => .error (.badPattern text e)

/-- Whether a name follows a convention. -/
def Convention.accepts (c : Convention) (name : String) : Except Pattern.Fault Bool :=
  if name = "" then .ok false else c.expression.match? name

/-! ### The catalog -/

inductive RuleId where
  | namespaceRequired
  | docRequired
  | fieldDocRequired
  | namingConvention
  | enumUppercase
  | maxNestingDepth
  | packageRequired
  | syntaxVersion
  | messageNaming
  | enumZeroValue
  | fieldNaming
  | fieldNumbersSequential
  | schemaVersionRequired
  | titleRequired
  | descriptionRequired
  | additionalProperties
deriving DecidableEq, Repr

/-- The options of a rule, in the order in which they were set. -/
abbrev Options := List (Datum × Datum)

/-- What an option's value has to be. -/
inductive OptionCheck where
  | pattern
  | limit
  | syntaxLevel
deriving DecidableEq, Repr

structure Rule where
  format : Format
  severity : Severity
  appliesTo : List Kind
  description : String
  rootOnly : Bool := false
  enabledByDefault : Bool := true
  defaultOptions : Options := []
  /-- The option that a bare value sets. -/
  primaryOption : Option String := none
  optionCheck : Option OptionCheck := none
deriving Repr

def textOption (name value : String) : Options := [(.str name, .str value)]

namespace RuleId

def text : RuleId → String
  | .namespaceRequired => "namespace_required"
  | .docRequired => "doc_required"
  | .fieldDocRequired => "field_doc_required"
  | .namingConvention => "naming_convention"
  | .enumUppercase => "enum_uppercase"
  | .maxNestingDepth => "max_nesting_depth"
  | .packageRequired => "package_required"
  | .syntaxVersion => "syntax_version"
  | .messageNaming => "message_naming"
  | .enumZeroValue => "enum_zero_value"
  | .fieldNaming => "field_naming"
  | .fieldNumbersSequential => "field_numbers_sequential"
  | .schemaVersionRequired => "schema_version_required"
  | .titleRequired => "title_required"
  | .descriptionRequired => "description_required"
  | .additionalProperties => "additional_properties"

/-- All rules, in the order in which they run at a node. -/
def all : List RuleId :=
  [.namespaceRequired, .docRequired, .fieldDocRequired, .namingConvention, .enumUppercase,
   .maxNestingDepth, .packageRequired, .syntaxVersion, .messageNaming, .enumZeroValue,
   .fieldNaming, .fieldNumbersSequential, .schemaVersionRequired, .titleRequired,
   .descriptionRequired, .additionalProperties]

def ofText? (s : String) : Option RuleId := all.find? fun r => r.text == s

/-- Kinds of Avro nodes that can carry a name. -/
def avroNamedKinds : List Kind := [.record, .enum, .primitive]

/-- What the catalog says about a rule. -/
def rule : RuleId → Rule
  | .namespaceRequired =>
    { format := .avro, severity := .warning, appliesTo := avroNamedKinds,
      description := "The root type declares a namespace", rootOnly := true }
  | .docRequired =>
    { format := .avro, severity := .warning, appliesTo := avroNamedKinds,
      description := "Named types carry a doc string" }
  | .fieldDocRequired =>
    { format := .avro, severity := .warning, appliesTo := [.record],
      description := "Record fields carry a doc string", enabledByDefault := false }
  | .namingConvention =>
    { format := .avro, severity := .warning, appliesTo := avroNamedKinds,
      description := "The root type name follows the naming convention", rootOnly := true,
      defaultOptions := textOption "pattern" "camelCase", primaryOption := some "pattern",
      optionCheck := some .pattern }
  | .enumUppercase =>
    { format := .avro, severity := .warning, appliesTo := [.enum],
      description := "Enum symbols are uppercase",
      defaultOptions := textOption "pattern" "UPPERCASE", primaryOption := some "pattern",
      optionCheck := some .pattern }
  | .maxNestingDepth =>
    { format := .avro, severity := .warning, appliesTo := [.record],
      description := "Records are not nested deeper than the limit",
      defaultOptions := [(.str "limit", .int 5)], primaryOption := some "limit",
      optionCheck := some .limit }
  | .packageRequired =>
    { format := .protobuf, severity := .error, appliesTo := [.file],
      description := "The file declares a package", rootOnly := true }
  | .syntaxVersion =>
    { format := .protobuf, severity := .warning, appliesTo := [.file],
      description := "The file declares the expected syntax", rootOnly := true,
      defaultOptions := textOption "expected" "proto3", primaryOption := some "expected",
      optionCheck := some .syntaxLevel }
  | .messageNaming =>
    { format := .protobuf, severity := .warning, appliesTo := [.message],
      description := "Message names are PascalCase",
      defaultOptions := textOption "pattern" "PascalCase", primaryOption := some "pattern",
      optionCheck := some .pattern }
  | .enumZeroValue =>
    { format := .protobuf, severity := .warning, appliesTo := [.enum],
      description := "Enums define a value numbered 0" }
  | .fieldNaming =>
    { format := .protobuf, severity := .warning, appliesTo := [.message],
      description := "Field names are snake_case", enabledByDefault := false,
      defaultOptions := textOption "pattern" "snake_case", primaryOption := some "pattern",
      optionCheck := some .pattern }
  | .fieldNumbersSequential =>
    { format := .protobuf, severity := .warning, appliesTo := [.message],
      description := "Field numbers run 1..N in declaration order", enabledByDefault := false }
  | .schemaVersionRequired =>
    { format := .jsonSchema, severity := .error, appliesTo := Kind.all,
      description := "The document declares $schema", rootOnly := true }
  | .titleRequired =>
    { format := .jsonSchema, severity := .warning, appliesTo := Kind.all,
      description := "The root schema has a title", rootOnly := true }
  | .descriptionRequired =>
    { format := .jsonSchema, severity := .warning, appliesTo := Kind.all,
      description := "The root schema has a description", rootOnly := true,
      enabledByDefault := false }
  | .additionalProperties =>
    { format := .jsonSchema, severity := .warning, appliesTo := [.record],
      description := "Objects close their property set" }

/-- The rules of a language, in the order in which they run. -/
def ofFormat (format : Format) : List RuleId := all.filter fun r => r.rule.format == format

end RuleId

/-- Whether a rule's options can be used. -/
def OptionCheck.run (check : OptionCheck) (options : Options) : Except OptionFault Unit :=
  match check with
  | .pattern =>
    match (Datum.textEntry? options "pattern").getD .null with
    | .str text =>
      if text = "" then .error (.patternNotText (Text.quoted text))
      else do
        let _ ← Convention.ofText text
        return ()
    | other => .error (.patternNotText other.shown)
  | .limit =>
    match (Datum.textEntry? options "limit").getD .null with
    | .int n => if n < 1 then .error (.badLimit (toString n)) else .ok ()
    | other => .error (.badLimit other.shown)
  | .syntaxLevel =>
    match (Datum.textEntry? options "expected").getD .null with
    | .str level =>
      if level = "proto2" ∨ level = "proto3" then .ok ()
      else .error (.badSyntaxLevel (Text.quoted level))
    | other => .error (.badSyntaxLevel other.shown)

end SchemaReview.Lint
