import SchemaReview.Number.Binary64
import SchemaReview.Text.Blank
import SchemaReview.Text.Case
import SchemaReview.Text.Digit

/-!
# Decimal texts of double-precision numbers

A sign, digits with an optional point among them, and an optional exponent; or a word for infinity
or for what is not a number. Blanks may stand around the whole.
-/
namespace SchemaReview.Binary64

/-- A sign, as whether it is negative, and the rest. -/
def signOf : List Char → Bool × List Char
  | '-' :: rest => (true, rest)
  | '+' :: rest => (false, rest)
  | rest => (false, rest)

/-- The exponent that a text consists of; the empty text is zero. -/
def exponentOf? : List Char → Option Int
  | [] => some 0
  | e :: rest =>
    if e == 'e' || e == 'E' then
      let (negative, digits) := signOf rest
      (Text.digitsValue? digits).map fun n => if negative then -(n : Int) else n
    else none

/-- The value of a decimal without a sign. -/
def unsignedOfText? (negative : Bool) (s : List Char) : Option Binary64 := do
  let whole := s.takeWhile Text.isDecimalDigit
  let rest := s.dropWhile Text.isDecimalDigit
  let (fraction, rest) :=
    match rest with
    | '.' :: rest => (rest.takeWhile Text.isDecimalDigit, rest.dropWhile Text.isDecimalDigit)
    | rest => ([], rest)
  let digits ← Text.digitsValue? (whole ++ fraction)
  return ofDecimal negative digits ((← exponentOf? rest) - fraction.length)

/-- The value that a text spells. -/
def ofText? (s : List Char) : Option Binary64 :=
  let (negative, s) := signOf (Text.stripChars s)
  match Text.lower (String.ofList s) with
  | "inf" => some (infinity negative)
  | "infinity" => some (infinity negative)
  | "nan" => some nan
  | _ => unsignedOfText? negative s

end SchemaReview.Binary64
