import SchemaReview.Pattern.Basic
import SchemaReview.Pattern.Fault

/-!
# Reading a pattern token by token

A pattern is cut into tokens, a backslash with its next character being one. A lone backslash at
the end is reported as soon as it comes next. Besides the tokens that are left, a reader keeps the
flags of the whole pattern and what is known of its groups.
-/
namespace SchemaReview.Pattern

/-- A character, or a backslash with the character after it, and where it starts. -/
structure Token where
  position : Nat
  chars : List Char
deriving DecidableEq, Repr

def tokenize : Nat → List Char → List Token
  | _, [] => []
  | i, '\\' :: c :: rest => ⟨i, ['\\', c]⟩ :: tokenize (i + 2) rest
  | i, c :: rest => ⟨i, [c]⟩ :: tokenize (i + 1) rest

/-- A group: its name, and the least and greatest number of characters that it takes once it is
closed. -/
structure Group where
  name : Option String
  width : Option (Nat × Nat)
deriving Repr

structure Reading where
  tokens : List Token
  length : Nat
  flags : Flags := {}
  /-- The groups opened so far; the first one has number one. -/
  groups : List Group := []
  /-- The number of groups when the outermost assertion about the text before was entered. -/
  behindFrom : Option Nat := none
  /-- Group numbers tested before their group is known, with the place of the first test. -/
  tested : List (Nat × Nat) := []
deriving Repr

abbrev Reader := StateT Reading (Except PatternError)

namespace Reader

def peek : Reader (Option (List Char)) := do
  return (← get).tokens.head?.map (·.chars)

/-- The place of the next token. -/
def tell : Reader Nat := do
  let s ← get
  return match s.tokens with
    | t :: _ => t.position
    | [] => s.length

/-- A fault some characters before the next token. -/
def fail {α : Type} (fault : Fault) (back : Nat) : Reader α := do
  throw ⟨fault, some ((← tell) - back)⟩

/-- Moves on to another rest of the tokens. -/
def setTokens (tokens : List Token) : Reader Unit := do
  match tokens with
  | ⟨p, ['\\']⟩ :: _ => throw ⟨.badEscapeAtEnd, some p⟩
  | _ => modify fun s => { s with tokens := tokens }

/-- The next token, which is consumed. -/
def next : Reader (Option (List Char)) := do
  let s ← get
  match s.tokens with
  | [] => return none
  | t :: rest =>
    setTokens rest
    return some t.chars

/-- Consumes a character if it comes next. -/
def accept (c : Char) : Reader Bool := do
  if (← peek) = some [c] then
    let _ ← next
    return true
  return false

/-- Up to `n` characters that pass a test. -/
def takeUpTo (test : Char → Bool) : Nat → Reader (List Char)
  | 0 => return []
  | n + 1 => do
    match ← peek with
    | some [c] =>
      if test c then
        let _ ← next
        return c :: (← takeUpTo test n)
      else return []
    | _ => return []

/-- The text up to a terminator, which is consumed. -/
def takeUntil (terminator : Char) (missing unterminated : Fault) :
    Nat → List Char → Reader (List Char)
  | 0, acc => return acc
  | fuel + 1, acc => do
    match ← next with
    | none => if acc.isEmpty then fail missing 0 else fail unterminated acc.length
    | some cs =>
      if cs = [terminator] then
        if acc.isEmpty then fail missing 1 else return acc
      else takeUntil terminator missing unterminated fuel (acc ++ cs)

end Reader

end SchemaReview.Pattern
