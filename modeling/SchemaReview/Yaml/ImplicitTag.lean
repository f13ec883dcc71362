import SchemaReview.Text.Split
import SchemaReview.Yaml.Moment
import SchemaReview.Yaml.Node

/-!
# Tags of plain texts

A plain text without a tag is a number, a boolean, a date and so on if it has the form of one, and a
string otherwise. A text may end with a line feed that does not belong to the form.
-/
namespace SchemaReview.Yaml

def nullWords : List String := ["", "~", "null", "Null", "NULL"]

def boolWords : List String :=
  ["yes", "Yes", "YES", "no", "No", "NO", "true", "True", "TRUE", "false", "False", "FALSE",
    "on", "On", "ON", "off", "Off", "OFF"]

def withoutSign (s : List Char) : List Char :=
  match s with
  | '-' :: rest => rest
  | '+' :: rest => rest
  | rest => rest

def isDigitOrLine (c : Char) : Bool := c.isDigit || c == '_'

def isOneOrMore (p : Char → Bool) (s : List Char) : Bool := !s.isEmpty && s.all p

/-- Digits and underscores that start with a digit. -/
def isDigits (s : List Char) : Bool := (s.headD ' ').isDigit && s.all isDigitOrLine

/-- Digits and underscores that start with a digit other than zero. -/
def isDecimal (s : List Char) : Bool := isDigits s && s.head? != some '0'

/-- A part of a number in base sixty after the first part. -/
def isSixtieth : List Char → Bool
  | [a] => a.isDigit
  | [a, b] => '0' ≤ a && a ≤ '5' && b.isDigit
  | _ => false

/-- Parts between colons, the first of which has a given form. -/
def isSexagesimal (isFirst : List Char → Bool) (s : List Char) : Bool :=
  match Text.splitAt ':' s with
  | first :: others => isFirst first && !others.isEmpty && others.all isSixtieth
  | [] => false

def hasIntForm (s : List Char) : Bool :=
  match withoutSign s with
  | ['0'] => true
  | '0' :: 'b' :: rest => isOneOrMore (fun c => c == '0' || c == '1' || c == '_') rest
  | '0' :: 'x' :: rest => isOneOrMore (fun c => (Text.hexValue? c).isSome || c == '_') rest
  | '0' :: rest => isOneOrMore (fun c => ('0' ≤ c && c ≤ '7') || c == '_') rest
  | rest => isDecimal rest || isSexagesimal isDecimal rest

/-- Nothing, or an exponent whose sign is given. -/
def isExponent : List Char → Bool
  | [] => true
  | e :: sign :: digits =>
    (e == 'e' || e == 'E') && (sign == '-' || sign == '+') && isOneOrMore Char.isDigit digits
  | _ => false

/-- Digits and underscores, and then an exponent. -/
def isFraction (s : List Char) : Bool := isExponent (s.dropWhile isDigitOrLine)

/-- A fraction that starts with its point and a digit. -/
def isPointNumber : List Char → Bool
  | '.' :: d :: rest => d.isDigit && isFraction rest
  | _ => false

def infinityWords : List String := [".inf", ".Inf", ".INF"]

def notANumberWords : List String := [".nan", ".NaN", ".NAN"]

/-- A number with a point, in base ten or sixty. One that starts with its point has no sign. -/
def hasFloatForm (s : List Char) : Bool :=
  let unsigned := withoutSign s
  let whole := unsigned.takeWhile (· != '.')
  let fraction := (unsigned.dropWhile (· != '.')).tail
  infinityWords.contains (String.ofList unsigned) ||
  notANumberWords.contains (String.ofList s) ||
  isPointNumber s ||
  (unsigned.contains '.' &&
    ((isDigits whole && isFraction fraction) ||
      (isSexagesimal isDigits whole && fraction.all isDigitOrLine)))

/-- A date alone has two digits for month and day. -/
def hasTimestampForm (s : List Char) : Bool :=
  match Moment.ofText? s with
  | none => false
  | some m => m.time.isSome || s.length = 10

/-- The tag of a plain text. -/
def Tag.ofPlain (text : String) : Tag :=
  let s := text.toList
  let s := if s.length ≠ 1 && s.getLast? == some '\n' then s.dropLast else s
  let word := String.ofList s
  if boolWords.contains word then .bool
  else if hasFloatForm s then .float
  else if hasIntForm s then .int
  else if word == "<<" then .merge
  else if nullWords.contains word then .null
  else if hasTimestampForm s then .timestamp
  else if word == "=" then .value
  else .str

end SchemaReview.Yaml
