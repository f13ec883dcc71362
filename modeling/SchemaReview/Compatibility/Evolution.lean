import SchemaReview.Compatibility.Check

/-!
# Evolution of a subject

Candidates are submitted one after another. Each is checked against all versions registered before
it, and is registered under its number if it is compatible, or if registration is forced.
-/
namespace SchemaReview

/-- The check of a candidate with a number, and the history of the subject after it. -/
def submit (history : List RegisteredVersion) (number : Nat) (candidate : SchemaInput) (mode : Mode)
    (subject : String) (force : Bool) :
    Logged (Except Failure (CheckResult × List RegisteredVersion)) := do
  match ← checkCompatible candidate (history.map .registered) mode subject with
  | .error f => return .error f
  | .ok result =>
    if result.compatible || force then
      return .ok (result, history ++ [{ version := number, schema := candidate }])
    else return .ok (result, history)

end SchemaReview
