import SchemaReview.Pattern.Match
import SchemaReview.Pattern.Parser

/-!
# Regular expressions

A regular expression is read from a text and asked whether it matches at the start of another text.
A text that is shorter than every match can be is not searched. The marks of rounds that failed can
leave a group that closes before it opens; a match with such a group is a fault.
-/
namespace SchemaReview.Pattern

structure Expression where
  node : Node
  /-- The least number of characters that a match takes. -/
  least : Nat
deriving DecidableEq, Repr

namespace Expression

/-- The expression that a text spells. -/
def ofText (text : String) : Except PatternError Expression := do
  let chars := text.toList
  let tokens := tokenize 0 chars
  let (node, groups) ←
    (wholePattern (4 * tokens.length + 8)).run' { tokens := tokens, length := chars.length }
  return ⟨node, (node.width groups).1⟩

/-- The marks that a match at the start of a text leaves, if there is one. -/
def marksAtStart? (e : Expression) (text : String) : Option Marks :=
  let subject := text.toList.toArray
  if subject.size < e.least then none else e.node.marksAtStart? subject

/-- Whether an expression matches at the start of a text. -/
def matchesStart (e : Expression) (text : String) : Bool := (e.marksAtStart? text).isSome

/-- Whether an expression matches at the start of a text, with all groups in order. -/
def match? (e : Expression) (text : String) : Except Fault Bool :=
  match e.marksAtStart? text with
  | none => .ok false
  | some marks => if marks.areInOrder then .ok true else .error .brokenGroup

end Expression
end SchemaReview.Pattern
