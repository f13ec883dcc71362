import SchemaReview.Text.Split

/-!
# Runs of names

The names of code points that follow one another are kept together as far as they begin alike.
-/
namespace SchemaReview.Text

/-- The names of consecutive code points: what all of them begin with, and how each goes on, with
commas between them. A line may be broken after a comma. -/
structure NameRun where
  first : Nat
  stem : String
  endings : String
deriving DecidableEq, Repr

/-- How the names of a run go on, in order. -/
def NameRun.endingList (run : NameRun) : List (List Char) :=
  (splitAt ',' run.endings.toList).map fun ending =>
    ending.dropWhile fun c => c == '\n' || c == ' '

/-- The code point of a run that has a name. -/
def NameRun.code? (run : NameRun) (name : List Char) : Option Nat := do
  let ending ← run.stem.toList.isPrefixOf? name
  let position ← run.endingList.idxOf? ending
  return run.first + position

end SchemaReview.Text
