import SchemaReview.Lint.Check
import SchemaReview.Lint.RuleSet

/-!
# Linting a document

One walk over the tree; at each node the enabled rules of the document's language run in the order
of the catalog.
-/
namespace SchemaReview.Lint

/-- The enabled rules of a language with their configurations. -/
def activeRules (rules : RuleSet) (format : Format) : List (RuleId × RuleConfig) :=
  ((RuleId.ofFormat format).map fun id => (id, rules.config id)).filter fun r => r.2.enabled

/-- The issue of a finding at a visit. -/
def issueOf (id : RuleId) (config : RuleConfig) (v : Visit) (f : Finding) : Issue :=
  { ruleId := id.text, severity := f.severity.getD config.severity, message := f.message,
    path := v.path ++ f.path }

/-- The issues of one rule at a visit. -/
def ruleIssues (d : Document) (v : Visit) (rule : RuleId × RuleConfig) :
    Except Failure (List Issue) :=
  if rule.1.rule.applies v then do
    return (← rule.1.check d v rule.2.options).map (issueOf rule.1 rule.2 v)
  else return []

/-- The issues of rules at a visit, rule by rule. -/
def visitIssues (d : Document) (v : Visit) (rules : List (RuleId × RuleConfig)) :
    Except Failure (List Issue) := do
  return (← rules.mapM (ruleIssues d v)).flatten

/-- The issues of a document. -/
def lint (d : Document) (rules : RuleSet) : Except Failure (List Issue) := do
  let active := activeRules rules d.format
  return (← d.root.walk.mapM fun v => visitIssues d v active).flatten

/-- The language that a bare tree is taken for: a file is an interface definition, anything else
an Avro schema. -/
def assumedFormat (s : Schema) : Format := if s.kind = .file then .protobuf else .avro

/-- A bare tree as a document. -/
def documentOf (s : Schema) (format : Option Format) : Document :=
  { format := format.getD (assumedFormat s), root := s }

end SchemaReview.Lint
