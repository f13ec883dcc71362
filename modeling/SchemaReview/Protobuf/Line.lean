import SchemaReview.Text.Blank
import SchemaReview.Text.Digit
import SchemaReview.Text.WordChar

/-!
# Lines of interface definitions

The forms of statements and block headers. Each reader takes a text in which words are one space
apart and gives the parts of the form, or nothing if the text does not have it.
-/
namespace SchemaReview.Protobuf

def skipBlanks (s : List Char) : List Char := s.dropWhile Text.isBlank

/-- The text after a word that starts it. -/
def afterWord? (word : String) (s : List Char) : Option (List Char) :=
  if word.toList.isPrefixOf s then some (s.drop word.length) else none

/-- The text after at least one blank. -/
def afterBlanks? (s : List Char) : Option (List Char) :=
  match s with
  | c :: _ => if Text.isBlank c then some (skipBlanks s) else none
  | [] => none

/-- The text after a character that starts it. -/
def afterChar? (c : Char) (s : List Char) : Option (List Char) :=
  match s with
  | d :: rest => if c == d then some rest else none
  | [] => none

def isPathChar (c : Char) : Bool := Text.isWord c || c == '.'

/-- A nonempty run of characters that pass a test, and what follows. -/
def span? (test : Char → Bool) (s : List Char) : Option (List Char × List Char) :=
  let run := s.takeWhile test
  if run.isEmpty then none else some (run, s.dropWhile test)

def isQuote (c : Char) : Bool := c == '"' || c == '\''

theorem ne_of_isQuote {q c : Char} (opens : isQuote q = true) (plain : isQuote c = false) :
    q ≠ c := by
  rintro rfl
  rw [opens] at plain
  cases plain

/-- The value of `syntax = "…"`. -/
def syntaxValue? (s : List Char) : Option (List Char) := do
  let s ← afterWord? "syntax" s
  let s ← afterChar? '=' (skipBlanks s)
  match skipBlanks s with
  | q :: s =>
    if isQuote q then
      let (value, rest) ← span? (fun c => !isQuote c) s
      match rest with
      | [_] => some value
      | _ => none
    else none
  | [] => none

/-- The name of `package a.b`. -/
def packageName? (s : List Char) : Option (List Char) := do
  let s ← afterWord? "package" s
  let s ← afterBlanks? s
  let (name, rest) ← span? isPathChar s
  if rest.isEmpty then some name else none

/-- The keywords that can start the header of a block. -/
def blockKeywords : List String := ["message", "enum", "oneof", "service", "extend"]

/-- The keyword and the name of a block's header. -/
def blockHeader? (s : List Char) : Option (String × List Char) :=
  blockKeywords.findSome? fun keyword => do
    let s ← afterWord? keyword s
    let s ← afterBlanks? s
    let (name, rest) ← span? isPathChar s
    if rest.isEmpty then some (keyword, name) else none

/-- Whether a text is nothing but an optional list of options in brackets. -/
def isOptionsTail (s : List Char) : Bool :=
  match skipBlanks s with
  | [] => true
  | '[' :: rest => rest.getLast? == some ']'
  | _ => false

/-- The type of a field: a name, or a map with the given value type. -/
structure TypeText where
  text : List Char
  mapValue : Option (List Char)
deriving DecidableEq, Repr

/-- The type `map<key, value>`. -/
def mapType? (s : List Char) : Option (TypeText × List Char) := do
  let s ← afterWord? "map" s
  let s ← afterChar? '<' (skipBlanks s)
  let (_, s) ← span? isPathChar (skipBlanks s)
  let s ← afterChar? ',' (skipBlanks s)
  let (value, s) ← span? isPathChar (skipBlanks s)
  let s ← afterChar? '>' (skipBlanks s)
  return (⟨[], some value⟩, s)

def plainType? (s : List Char) : Option (TypeText × List Char) := do
  let (name, s) ← span? isPathChar s
  return (⟨name, none⟩, s)

/-- A field: its cardinality word, type, name and number. -/
structure FieldLine where
  label : Option String
  type : TypeText
  name : List Char
  number : List Char
deriving DecidableEq, Repr

/-- A field from its type on. -/
def fieldFromType? (label : Option String) (s : List Char) : Option FieldLine := do
  let (type, s) ← (mapType? s).or (plainType? s)
  let s ← afterBlanks? s
  let (name, s) ← span? Text.isWord s
  let s ← afterChar? '=' (skipBlanks s)
  let (number, s) ← span? Text.isDecimalDigit (skipBlanks s)
  if isOptionsTail s then some ⟨label, type, name, number⟩ else none

def labels : List String := ["repeated", "optional", "required"]

/-- A field. A cardinality word counts as one only if a whole field follows it; otherwise it is
the field's type. -/
def field? (s : List Char) : Option FieldLine :=
  let labelled := labels.findSome? fun label => do
    let s ← afterWord? label s
    fieldFromType? (some label) (← afterBlanks? s)
  labelled.or (fieldFromType? none s)

/-- The digits of a number and its base. -/
structure NumberText where
  negative : Bool
  base : Nat
  digits : List Char
deriving DecidableEq, Repr

def isHexDigit (c : Char) : Bool :=
  c.isDigit || ('a' ≤ c && c ≤ 'f') || ('A' ≤ c && c ≤ 'F')

/-- A whole number, decimal or hexadecimal, and what follows. -/
def number? (s : List Char) : Option (NumberText × List Char) :=
  let (negative, s) := match s with
    | '-' :: rest => (true, rest)
    | rest => (false, rest)
  let decimal := (span? Text.isDecimalDigit s).map fun (ds, rest) =>
    ((⟨negative, 10, ds⟩ : NumberText), rest)
  match s with
  | '0' :: x :: rest =>
    if x == 'x' || x == 'X' then
      match span? isHexDigit rest with
      | some (ds, rest) => some (⟨negative, 16, ds⟩, rest)
      | none => decimal
    else decimal
  | _ => decimal

def hexDigitValue (c : Char) : Nat :=
  if c.isDigit then c.toNat - '0'.toNat else c.toLower.toNat - 'a'.toNat + 10

def NumberText.value (n : NumberText) : Int :=
  let magnitude : Nat :=
    if n.base = 16 then n.digits.foldl (fun v c => 16 * v + hexDigitValue c) 0
    else (Text.digitsValue? n.digits).getD 0
  if n.negative then -magnitude else magnitude

/-- A value of an enum: its name and number. -/
def enumValue? (s : List Char) : Option (List Char × NumberText) := do
  let (name, s) ← span? Text.isWord s
  let s ← afterChar? '=' (skipBlanks s)
  let (number, s) ← number? (skipBlanks s)
  if isOptionsTail s then some (name, number) else none

end SchemaReview.Protobuf
