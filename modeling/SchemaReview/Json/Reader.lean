import SchemaReview.Json.Basic
import SchemaReview.Text.Digit

/-!
# Reading JSON text

A text is read left to right. Each failure is a cause together with the number of characters that
were left when it was met, which gives its offset. Beyond the standard, the words `NaN`,
`Infinity` and `-Infinity` are numbers. Of repeated keys the last value counts, in the place of the
first.
-/
namespace SchemaReview.Json

/-- Why a text is not JSON. -/
inductive SyntaxFault where
  | byteOrderMark
  | expectingValue
  | expectingPropertyName
  | expectingColon
  | expectingComma
  | extraData
  | unterminatedString
  | invalidControlCharacter
  | invalidEscape
  | invalidUnicodeEscape
deriving DecidableEq, Repr

def SyntaxFault.text : SyntaxFault → String
  | .byteOrderMark => "Unexpected UTF-8 BOM (decode using utf-8-sig)"
  | .expectingValue => "Expecting value"
  | .expectingPropertyName => "Expecting property name enclosed in double quotes"
  | .expectingColon => "Expecting ':' delimiter"
  | .expectingComma => "Expecting ',' delimiter"
  | .extraData => "Extra data"
  | .unterminatedString => "Unterminated string starting at"
  | .invalidControlCharacter => "Invalid control character at"
  | .invalidEscape => "Invalid \\escape"
  | .invalidUnicodeEscape => "Invalid \\uXXXX escape"

/-- A failure and how many characters were left where it lies. -/
structure ScanFault where
  fault : SyntaxFault
  left : Nat
deriving DecidableEq, Repr

abbrev Scan (α : Type) := Except ScanFault (α × List Char)

/-- The failure at the start of a rest of the text. -/
def failAt {α : Type} (fault : SyntaxFault) (rest : List Char) : Except ScanFault α :=
  .error ⟨fault, rest.length⟩

def isSpace (c : Char) : Bool := c == ' ' || c == '\t' || c == '\n' || c == '\r'

def skipSpace (s : List Char) : List Char := s.dropWhile isSpace

/-- The number of four hexadecimal digits. -/
def hexQuad? : List Char → Option (Nat × List Char)
  | a :: b :: c :: d :: rest => do
    let n := (((← Text.hexValue? a) * 16 + (← Text.hexValue? b)) * 16 + (← Text.hexValue? c)) * 16 + (← Text.hexValue? d)
    return (n, rest)
  | _ => none

/-- The character of a simple escape. -/
def simpleEscape? : Char → Option Char
  | '"' => some '"'
  | '\\' => some '\\'
  | '/' => some '/'
  | 'b' => some '\x08'
  | 'f' => some '\x0c'
  | 'n' => some '\n'
  | 'r' => some '\r'
  | 't' => some '\t'
  | _ => none

/-- The second half of a surrogate pair that follows its first half. -/
def lowSurrogate? : List Char → Option (Nat × List Char)
  | '\\' :: 'u' :: rest =>
    match hexQuad? rest with
    | some (n, rest') =>
      if 0xDC00 ≤ n ∧ n ≤ 0xDFFF ∧ rest'.length ≠ 0 then some (n, rest') else none
    | none => none
  | _ => none

/-- The characters of a string up to its closing quote. `opened` is the text from the opening quote
on, where an unterminated string is reported. -/
def scanString (opened : List Char) : Nat → List Char → List Char → Scan String
  | 0, _, _ => failAt .unterminatedString opened
  | fuel + 1, s, acc =>
    match s with
    | [] => failAt .unterminatedString opened
    | '"' :: rest => .ok (String.ofList acc.reverse, rest)
    | '\\' :: [] => failAt .unterminatedString opened
    | '\\' :: 'u' :: rest =>
      if rest.length ≤ 4 then failAt .invalidUnicodeEscape ('u' :: rest)
      else
        match hexQuad? rest with
        | none => failAt .invalidUnicodeEscape ('u' :: rest)
        | some (n, rest) =>
          if 0xD800 ≤ n ∧ n ≤ 0xDBFF then
            match lowSurrogate? rest with
            | some (low, rest) =>
              let code := 0x10000 + (n - 0xD800) * 0x400 + (low - 0xDC00)
              scanString opened fuel rest (Char.ofNat code :: acc)
            | none => scanString opened fuel rest (Char.ofNat n :: acc)
          else scanString opened fuel rest (Char.ofNat n :: acc)
    | '\\' :: c :: rest =>
      match simpleEscape? c with
      | some e => scanString opened fuel rest (e :: acc)
      | none => failAt .invalidEscape s
    | c :: rest =>
      if c.toNat < 0x20 then failAt .invalidControlCharacter s
      else scanString opened fuel rest (c :: acc)

/-- An exponent, if at least one digit follows its mark and sign. -/
def scanExponent : List Char → Option (Int × List Char)
  | e :: rest =>
    if e == 'e' || e == 'E' then
      let (negative, rest) :=
        match rest with
        | '-' :: r => (true, r)
        | '+' :: r => (false, r)
        | r => (false, r)
      let ds := rest.takeWhile Char.isDigit
      if ds.isEmpty then none
      else
        let n : Int := Text.digitsNat ds
        some (if negative then -n else n, rest.dropWhile Char.isDigit)
    else none
  | [] => none

/-- A fraction, if at least one digit follows the point. -/
def scanFraction : List Char → Option (List Char × List Char)
  | '.' :: rest =>
    let ds := rest.takeWhile Char.isDigit
    if ds.isEmpty then none else some (ds, rest.dropWhile Char.isDigit)
  | _ => none

/-- Whether a minus sign comes first, and what follows it. -/
def splitMinus : List Char → Bool × List Char
  | '-' :: rest => (true, rest)
  | rest => (false, rest)

/-- The whole part of a number: a zero alone or all digits that follow. -/
def wholeDigits : List Char → List Char
  | '0' :: _ => ['0']
  | s => s.takeWhile Char.isDigit

/-- What is left after a part that may be absent. -/
def restAfter {α : Type} (part : Option (α × List Char)) (s : List Char) : List Char :=
  match part with
  | some (_, rest) => rest
  | none => s

/-- The number with the given parts: whole unless it has a fraction or an exponent. -/
def numberOf (negative : Bool) (whole : List Char) (fraction : Option (List Char))
    (exponent : Option Int) : Json :=
  match fraction, exponent with
  | none, none =>
    let n : Int := Text.digitsNat whole
    .int (if negative then -n else n)
  | _, _ =>
    let ds := fraction.getD []
    .float (.ofDecimal negative (Text.digitsNat (whole ++ ds)) (exponent.getD 0 - ds.length))

/-- A number part by part. -/
def scanNumber (s : List Char) : Scan Json :=
  let (negative, body) := splitMinus s
  let whole := wholeDigits body
  if whole.isEmpty then failAt .expectingValue s
  else
    let rest := body.drop whole.length
    let fraction := scanFraction rest
    let rest := restAfter fraction rest
    let exponent := scanExponent rest
    .ok (numberOf negative whole (fraction.map (·.1)) (exponent.map (·.1)),
      restAfter exponent rest)

/-- The words that stand for values. -/
def wordValues : List (String × Json) :=
  [("null", .null), ("true", .bool true), ("false", .bool false), ("NaN", .float .nan),
   ("Infinity", .float (.infinity false)), ("-Infinity", .float (.infinity true))]

/-- A word that stands for a value. -/
def scanWord? (s : List Char) : Option (Json × List Char) :=
  wordValues.findSome? fun (word, value) =>
    if word.toList.isPrefixOf s then some (value, s.drop word.length) else none

mutual

/-- One value. The fuel bounds the values and members still to come; the text's length is
enough. -/
def scanValue : Nat → List Char → Scan Json
  | 0, s => failAt .expectingValue s
  | fuel + 1, s =>
    match s with
    | [] => failAt .expectingValue []
    | '"' :: rest =>
      match scanString s (rest.length + 1) rest [] with
      | .ok (t, rest) => .ok (.str t, rest)
      | .error e => .error e
    | '{' :: rest =>
      match skipSpace rest with
      | '}' :: rest => .ok (.obj [], rest)
      | rest => scanMembers fuel rest []
    | '[' :: rest =>
      match skipSpace rest with
      | ']' :: rest => .ok (.arr [], rest)
      | rest => scanItems fuel rest []
    | _ =>
      match scanWord? s with
      | some r => .ok r
      | none => scanNumber s

/-- The members of an object from a key on. -/
def scanMembers : Nat → List Char → List (String × Json) → Scan Json
  | 0, s, _ => failAt .expectingPropertyName s
  | fuel + 1, s, acc =>
    match s with
    | '"' :: rest =>
      match scanString s (rest.length + 1) rest [] with
      | .error e => .error e
      | .ok (key, rest) =>
        match skipSpace rest with
        | ':' :: rest =>
          match scanValue fuel (skipSpace rest) with
          | .error e => .error e
          | .ok (value, rest) =>
            let acc := setMember acc key value
            match skipSpace rest with
            | '}' :: rest => .ok (.obj acc, rest)
            | ',' :: rest => scanMembers fuel (skipSpace rest) acc
            | rest => failAt .expectingComma rest
        | rest => failAt .expectingColon rest
    | _ => failAt .expectingPropertyName s

/-- The items of an array from a value on. -/
def scanItems : Nat → List Char → List Json → Scan Json
  | 0, s, _ => failAt .expectingValue s
  | fuel + 1, s, acc =>
    match scanValue fuel s with
    | .error e => .error e
    | .ok (value, rest) =>
      match skipSpace rest with
      | ']' :: rest => .ok (.arr (value :: acc).reverse, rest)
      | ',' :: rest => scanItems fuel (skipSpace rest) (value :: acc)
      | rest => failAt .expectingComma rest

end

/-- A failure to read a text, at an offset in characters. -/
structure SyntaxError where
  fault : SyntaxFault
  offset : Nat
deriving DecidableEq, Repr

/-- The value that a list of characters spells. -/
def ofChars (s : List Char) : Except SyntaxError Json :=
  let located (e : ScanFault) : SyntaxError := ⟨e.fault, s.length - e.left⟩
  match s with
  | '\uFEFF' :: _ => .error ⟨.byteOrderMark, 0⟩
  | _ =>
    match scanValue (s.length + 1) (skipSpace s) with
    | .error e => .error (located e)
    | .ok (value, rest) =>
      match skipSpace rest with
      | [] => .ok value
      | rest => .error (located ⟨.extraData, rest.length⟩)

/-- The value that a text spells. -/
def ofText (s : String) : Except SyntaxError Json := ofChars s.toList

/-- The failure with its place in a text as line and column. -/
def SyntaxError.describe (e : SyntaxError) (s : String) : String :=
  let before := s.toList.take e.offset
  let line := before.count '\n' + 1
  let column := (before.reverse.takeWhile (· != '\n')).length + 1
  e.fault.text ++ ": line " ++ toString line ++ " column " ++ toString column ++
    " (char " ++ toString e.offset ++ ")"

end SchemaReview.Json
