import SchemaReview.Text.Blank
import SchemaReview.Text.Digit

/-!
# Integers in texts

An optional sign and decimal digits of any script, with single underscores between digits and
blanks around the whole. The separator controls, which are blank elsewhere, are not blank here.
-/
namespace SchemaReview.Text

/-- A blank that may stand around an integer. -/
def isIntegerBlank (c : Char) : Bool := isBlank c && !(28 ≤ c.toNat && c.toNat ≤ 31)

/-- A text without the blanks that may stand around an integer. -/
def stripAroundInteger (s : List Char) : List Char :=
  ((s.dropWhile isIntegerBlank).reverse.dropWhile isIntegerBlank).reverse

/-- The digits of a text in which single underscores stand between digits. -/
def spacedDigits? : List Char → Option (List Char)
  | [] => none
  | [c] => if isDecimalDigit c then some [c] else none
  | c :: '_' :: rest => if isDecimalDigit c then (spacedDigits? rest).map (c :: ·) else none
  | c :: rest => if isDecimalDigit c then (spacedDigits? rest).map (c :: ·) else none

/-- The natural number that a text without a sign spells. -/
def unsignedValue? (s : List Char) : Option Nat := spacedDigits? s >>= digitsValue?

/-- The integer that a text spells. -/
def integerValue? (s : List Char) : Option Int :=
  match stripAroundInteger s with
  | '-' :: rest => (unsignedValue? rest).map fun n => -(n : Int)
  | '+' :: rest => (unsignedValue? rest).map Int.ofNat
  | rest => (unsignedValue? rest).map Int.ofNat

/-- The letters after a zero that may stand before the digits of a base. -/
def baseLetters (base : Nat) : List Char :=
  if base = 2 then ['b', 'B'] else if base = 8 then ['o', 'O'] else ['x', 'X']

/-- The value of a digit: a decimal digit of any script, or one of the letters of base sixteen. -/
def digitInBase? (base : Nat) (c : Char) : Option Nat := do
  let d ← digitValue? c <|> hexValue? c
  if d < base then some d else none

/-- The natural number that a text without a sign spells in base two, eight or sixteen. -/
def unsignedInBase? (base : Nat) (s : List Char) : Option Nat :=
  let digits := match s with
    | '0' :: letter :: rest => if (baseLetters base).contains letter then rest else s
    | s => s
  if digits.isEmpty then none
  else digits.foldl (fun n c => do return base * (← n) + (← digitInBase? base c)) (some 0)

/-- The integer that a text without underscores spells in base two, eight or sixteen. -/
def integerInBase? (base : Nat) (s : List Char) : Option Int :=
  match stripAroundInteger s with
  | '-' :: rest => (unsignedInBase? base rest).map fun n => -(n : Int)
  | '+' :: rest => (unsignedInBase? base rest).map Int.ofNat
  | rest => (unsignedInBase? base rest).map Int.ofNat

end SchemaReview.Text
