import SchemaReview.Fault
import SchemaReview.Avro.Reader
import SchemaReview.Avro.Writer
import SchemaReview.Batch
import SchemaReview.Calendar
import SchemaReview.Compatibility.Batch
import SchemaReview.Compatibility.Check
import SchemaReview.Compatibility.Diff
import SchemaReview.Compatibility.Entry
import SchemaReview.Compatibility.Evolution
import SchemaReview.Compatibility.Mode
import SchemaReview.Compatibility.Resolution
import SchemaReview.Datum
import SchemaReview.Digest.Sha256
import SchemaReview.Failure
import SchemaReview.Issue
import SchemaReview.Json.Basic
import SchemaReview.Json.Reader
import SchemaReview.Json.Writer
import SchemaReview.JsonSchema.Address
import SchemaReview.JsonSchema.Constraint
import SchemaReview.JsonSchema.Metaschema
import SchemaReview.JsonSchema.Reader
import SchemaReview.JsonSchema.Writer
import SchemaReview.Lint.Batch
import SchemaReview.Lint.Check
import SchemaReview.Lint.Engine
import SchemaReview.Lint.Fault
import SchemaReview.Lint.Rule
import SchemaReview.Lint.Result
import SchemaReview.Lint.RuleFile
import SchemaReview.Lint.RuleSet
import SchemaReview.Lint.Version
import SchemaReview.Log
import SchemaReview.Log.Routing
import SchemaReview.Number.Binary64
import SchemaReview.Number.Decimal
import SchemaReview.Number.Shortest
import SchemaReview.Sorting
import SchemaReview.Parse
import SchemaReview.Path
import SchemaReview.Pattern.Parser
import SchemaReview.Pattern.Basic
import SchemaReview.Pattern.Escape
import SchemaReview.Pattern.Character
import SchemaReview.Pattern.Expression
import SchemaReview.Pattern.Fault
import SchemaReview.Pattern.Group
import SchemaReview.Pattern.Match
import SchemaReview.Pattern.Reader
import SchemaReview.Protobuf.Block
import SchemaReview.Protobuf.Comment
import SchemaReview.Protobuf.Line
import SchemaReview.Protobuf.Reader
import SchemaReview.Registry.Comparison
import SchemaReview.Registry.Snapshot
import SchemaReview.Schema.Basic
import SchemaReview.Schema.Checked
import SchemaReview.Schema.Equality
import SchemaReview.Schema.Fingerprint
import SchemaReview.Schema.Kind
import SchemaReview.Schema.Signature
import SchemaReview.Schema.Walk
import SchemaReview.Settings
import SchemaReview.Source.Basic
import SchemaReview.Source.FileTree
import SchemaReview.Source.PosixPath
import SchemaReview.Subject
import SchemaReview.Text.Base64
import SchemaReview.Text.Blank
import SchemaReview.Text.Case
import SchemaReview.Text.CharacterName
import SchemaReview.Text.CharacterName.Alias
import SchemaReview.Text.CharacterName.American
import SchemaReview.Text.CharacterName.Asian
import SchemaReview.Text.CharacterName.Basic
import SchemaReview.Text.CharacterName.EastAsian
import SchemaReview.Text.CharacterName.Notation
import SchemaReview.Text.CharacterName.Pictograph
import SchemaReview.Text.CharacterName.Supplementary
import SchemaReview.Text.CharacterName.Symbol
import SchemaReview.Text.CharacterName.Western
import SchemaReview.Text.Digit
import SchemaReview.Text.Identifier
import SchemaReview.Text.Integer
import SchemaReview.Text.LetterCase
import SchemaReview.Text.Printable
import SchemaReview.Text.Quoted
import SchemaReview.Text.Range
import SchemaReview.Text.Split
import SchemaReview.Text.Utf8
import SchemaReview.Text.WordChar
import SchemaReview.Validation.Batch
import SchemaReview.Validation.Check
import SchemaReview.Yaml.BlockText
import SchemaReview.Yaml.Cursor
import SchemaReview.Yaml.Document
import SchemaReview.Yaml.Fault
import SchemaReview.Yaml.FlowText
import SchemaReview.Yaml.Grammar
import SchemaReview.Yaml.ImplicitTag
import SchemaReview.Yaml.Lexer
import SchemaReview.Yaml.Moment
import SchemaReview.Yaml.Node
import SchemaReview.Yaml.Property
import SchemaReview.Yaml.Reader
import SchemaReview.Yaml.ScalarValue
import SchemaReview.Yaml.SourceMap
import SchemaReview.Yaml.Token
import SchemaReview.Yaml.Value
import SchemaReview.Proofs.Avro.Reading
import SchemaReview.Proofs.Avro.Naming
import SchemaReview.Proofs.Avro.RoundTrip
import SchemaReview.Proofs.JsonSchema.Reading
import SchemaReview.Proofs.Schema.Nodes
import SchemaReview.Proofs.JsonSchema.RoundTrip
import SchemaReview.Proofs.Avro.Tree
import SchemaReview.Proofs.Compatibility.Resolution
import SchemaReview.Proofs.Compatibility.SignatureText
import SchemaReview.Proofs.Compatibility.Signature
import SchemaReview.Proofs.Compatibility.Diff
import SchemaReview.Proofs.Compatibility.Soundness
import SchemaReview.Proofs.Compatibility.Verdict
import SchemaReview.Proofs.Number.Decimal
import SchemaReview.Proofs.Json.NumberText
import SchemaReview.Proofs.Json.StringText
import SchemaReview.Proofs.Compatibility.Fields
import SchemaReview.Proofs.Compatibility.Recolouring
import SchemaReview.Proofs.Json.Equality
import SchemaReview.Proofs.Schema.WellFormed
import SchemaReview.Proofs.Compatibility.Mirror
import SchemaReview.Proofs.Compatibility.Check
import SchemaReview.Proofs.Compatibility.History
import SchemaReview.Proofs.Json.CanonicalText
import SchemaReview.Proofs.Json.MemberOrder
import SchemaReview.Proofs.Schema.Payload
import SchemaReview.Proofs.Compatibility.Alike
import SchemaReview.Proofs.Registry.Comparison
import SchemaReview.Proofs.Compatibility.Batch
import SchemaReview.Proofs.Parse.WellShaped
import SchemaReview.Proofs.Validation.Batch
import SchemaReview.Proofs.Batch.Arrival
import SchemaReview.Proofs.Registry.Loading
import SchemaReview.Proofs.Protobuf.Tree
import SchemaReview.Proofs.Parse.WellFormed
import SchemaReview.Proofs.Registry.Loaded
import SchemaReview.Proofs.Registry.Symmetry
import SchemaReview.Proofs.Protobuf.FieldTypes
import SchemaReview.Proofs.Protobuf.FieldNumbers
import SchemaReview.Proofs.Compatibility.Leaves
import SchemaReview.Proofs.Json.Transitivity
import SchemaReview.Proofs.Compatibility.Preorder
import SchemaReview.Proofs.Compatibility.Shortcut
import SchemaReview.Proofs.Sorting
import SchemaReview.Proofs.Pattern.Plain
import SchemaReview.Proofs.Lint.RuleFile
import SchemaReview.Proofs.Schema.Shape
import SchemaReview.Proofs.Compatibility.Likeness
import SchemaReview.Proofs.Compatibility.Reordering
import SchemaReview.Proofs.Compatibility.Matched
import SchemaReview.Proofs.JsonSchema.TypeList
import SchemaReview.Proofs.JsonSchema.EnumList
import SchemaReview.Proofs.Schema.Agreement
import SchemaReview.Proofs.JsonSchema.Defaults
import SchemaReview.Proofs.Avro.Scope
import SchemaReview.Proofs.Avro.Identity
import SchemaReview.Proofs.Outcome
import SchemaReview.Proofs.Avro.MemberOrder
import SchemaReview.Proofs.Text.Words
import SchemaReview.Proofs.Protobuf.Comments
import SchemaReview.Proofs.Protobuf.Blocks
import SchemaReview.Proofs.Protobuf.QuotedLines
import SchemaReview.Proofs.Protobuf.LikeItems
import SchemaReview.Proofs.Protobuf.Literals
import SchemaReview.Proofs.Protobuf.Declarations
import SchemaReview.Proofs.Lint.Configured
import SchemaReview.Proofs.Schema.Places
import SchemaReview.Proofs.Lint.Issues
import SchemaReview.Proofs.Lint.RootOnly
import SchemaReview.Proofs.Lint.Nesting
import SchemaReview.Proofs.Protobuf.FileLines
import SchemaReview.Proofs.Lint.Missing
import SchemaReview.Proofs.Lint.Presets
import SchemaReview.Proofs.Registry.Latest
import SchemaReview.Proofs.Yaml.SourceMap
import SchemaReview.Proofs.Avro.Namespace
import SchemaReview.Proofs.Compatibility.Namespace
