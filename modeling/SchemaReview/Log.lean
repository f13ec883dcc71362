/-!
# Log records

An operation that reports its progress returns the records beside its result, in the order in which
they were made.
-/
namespace SchemaReview

inductive LogLevel where
  | info
  | warning
  | error
deriving DecidableEq, Repr

def LogLevel.text : LogLevel → String
  | .info => "INFO"
  | .warning => "WARNING"
  | .error => "ERROR"

/-- The parts of the program that write records. -/
inductive Component where
  | lint
  | ruleSet
  | ruleFile
  | sources
  | validation
  | check
  | registry
deriving DecidableEq, Repr

/-- The name under which a part writes its records. -/
def Component.logger : Component → String
  | .lint => "schema_intelligence.linter"
  | .ruleSet => "schema_intelligence.linter.rule_set"
  | .ruleFile => "schema_intelligence.linter.rule_file"
  | .sources => "schema_intelligence.parsers.sources"
  | .validation => "schema_intelligence.validation"
  | .check => "schema_intelligence.compatibility.check"
  | .registry => "schema_intelligence.compatibility.registry_diff"

structure LogRecord where
  level : LogLevel
  component : Component
  message : String
deriving DecidableEq, Repr

/-- A record in one line: level, name of the writer, message. -/
def LogRecord.line (r : LogRecord) : String :=
  r.level.text ++ " " ++ r.component.logger ++ ": " ++ r.message

/-- A result with the records made on the way to it. -/
structure Logged (α : Type) where
  records : List LogRecord
  value : α
deriving Repr

namespace Logged

instance : Monad Logged where
  pure a := ⟨[], a⟩
  bind x f := let y := f x.value; ⟨x.records ++ y.records, y.value⟩

/-- One record. -/
def tell (level : LogLevel) (component : Component) (message : String) : Logged Unit :=
  ⟨[⟨level, component, message⟩], ()⟩

/-- The results of an operation on each of some items, up to the first failure. -/
def collect {α β ε : Type} (run : α → Logged (Except ε β)) : List α → Logged (Except ε (List β))
  | [] => return .ok []
  | a :: rest => do
    match ← run a with
    | .error e => return .error e
    | .ok b =>
      match ← collect run rest with
      | .error e => return .error e
      | .ok bs => return .ok (b :: bs)

end Logged
end SchemaReview
