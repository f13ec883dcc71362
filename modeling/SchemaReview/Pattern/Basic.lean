import SchemaReview.Text.Blank
import SchemaReview.Text.Digit
import SchemaReview.Text.WordChar

/-!
# Patterns

A naming convention is a regular expression, with groups, references to them, assertions and three
kinds of repetition. A node carries the flags that were in force where it was written. Characters of
patterns are given by code points, since a pattern can name code points that are no characters.
-/
namespace SchemaReview.Pattern

structure Flags where
  ignoreCase : Bool := false
  multiline : Bool := false
  dotAll : Bool := false
  verbose : Bool := false
  ascii : Bool := false
  unicode : Bool := false
deriving DecidableEq, Repr

/-- The classes of characters that have an escape of their own. -/
inductive CharClass where
  | digit
  | blank
  | word
deriving DecidableEq, Repr

/-- An element of a bracketed set. -/
inductive SetItem where
  | single (code : Nat)
  | range (first last : Nat)
  | ofClass (cls : CharClass) (negated : Bool)
deriving DecidableEq, Repr

inductive Anchor where
  | lineStart
  | lineEnd
  | textStart
  | textEnd
  | boundary
  | noBoundary
deriving DecidableEq, Repr

/-- How a repetition chooses the number of its rounds: as many as possible, as few as possible, or
as many as possible without ever giving one back. -/
inductive Greed where
  | greedy
  | lazy
  | possessive
deriving DecidableEq, Repr

inductive Node where
  | empty
  | literal (flags : Flags) (negated : Bool) (code : Nat)
  | any (flags : Flags)
  | set (flags : Flags) (negated : Bool) (items : List SetItem)
  | anchor (flags : Flags) (a : Anchor)
  | seq (first second : Node)
  | alt (first second : Node)
  | rounds (least : Nat) (most : Option Nat) (greed : Greed) (body : Node)
  | group (number : Nat) (body : Node)
  /-- A group that is not remembered and has flags of its own. -/
  | scoped (body : Node)
  | reference (flags : Flags) (number : Nat)
  | ahead (negated : Bool) (body : Node)
  | behind (width : Nat) (negated : Bool) (body : Node)
  | atomic (body : Node)
  | conditional (number : Nat) (present absent : Node)
deriving DecidableEq, Repr

/-- Whether a character belongs to a class, in ASCII or in all of Unicode. -/
def CharClass.contains (cls : CharClass) (ascii : Bool) (c : Char) : Bool :=
  if ascii then
    match cls with
    | .digit => c.isDigit
    | .blank => (9 ≤ c.toNat && c.toNat ≤ 13) || c == ' '
    | .word => c.isAlphanum || c == '_'
  else
    match cls with
    | .digit => Text.isDecimalDigit c
    | .blank => Text.isBlank c
    | .word => Text.isWord c

end SchemaReview.Pattern
