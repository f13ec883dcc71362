import SchemaReview.Path
import SchemaReview.Json.Basic
import SchemaReview.Text.Blank
import SchemaReview.Text.Case

/-!
# Issues

What a review reports about one place of a schema, and how severe it is.
-/
namespace SchemaReview

inductive Severity where
  | error
  | warning
deriving DecidableEq, Repr

namespace Severity

def text : Severity → String
  | .error => "error"
  | .warning => "warning"

/-- The severity that a text names, whatever its case and the blanks around it. -/
def ofText? (s : String) : Option Severity :=
  let key := Text.lower (Text.strip s)
  if key = "warn" ∨ key = "warning" then some .warning
  else if key = "error" ∨ key = "err" then some .error
  else none

end Severity

structure Issue where
  ruleId : String
  severity : Severity
  message : String
  path : Path := []
deriving DecidableEq, Repr

def Step.toJson : Step → Json
  | .name text => .str text
  | .index position => .int position

def Path.toJson (path : Path) : Json := .arr (path.map Step.toJson)

namespace Issue

def pointer (i : Issue) : String := i.path.pointer

/-- The issue as plain data. -/
def toJson (i : Issue) : Json :=
  .obj [("rule_id", .str i.ruleId), ("severity", .str i.severity.text),
    ("message", .str i.message), ("path", i.path.toJson)]

/-- The issue in one line, with the schema it was found in and its place, where there are any. -/
def line (i : Issue) (identifier : Option String) : String :=
  let source := match identifier with
    | some name => if name = "" then [] else ["source= " ++ name]
    | none => []
  let place := if i.path.isEmpty then [] else ["path= " ++ i.pointer]
  let parts := source ++ place
  let suffix := if parts.isEmpty then "" else " (" ++ " ".intercalate parts ++ ")"
  Text.upper i.severity.text ++ "[" ++ i.ruleId ++ "]: " ++ i.message ++ suffix

end Issue
end SchemaReview
