import SchemaReview.Number.Binary64
import SchemaReview.Number.Decimal
import SchemaReview.Text.Base64
import SchemaReview.Text.Integer
import SchemaReview.Yaml.ImplicitTag

/-!
# Values of scalars

What a text stands for under a tag. Underscores in numbers do not count. An integer may be binary,
octal, hexadecimal or in base sixty, and a float in base sixty too.
-/
namespace SchemaReview.Yaml

def failWith {α : Type} (fault : ValueFault) : Except Fault α := .error (.failed (.value fault))

/-- The booleans by their words. -/
def booleans : List (String × Bool) :=
  [("yes", true), ("no", false), ("true", true), ("false", false), ("on", true), ("off", false)]

def boolValue (text : String) : Except Fault Datum :=
  match booleans.lookup (Text.lower text) with
  | some b => .ok (.bool b)
  | none => .error (.failed (.missingKey (Text.lower text)))

/-- The integer that a text in base two, eight or sixteen spells. -/
def valueInBase (base : Nat) (s : List Char) : Except Fault Int :=
  match Text.integerInBase? base s with
  | some n => .ok n
  | none => failWith (.notAnInteger (Text.quoted (String.ofList s)) base)

def decimalValue (s : List Char) : Except Fault Int :=
  match Text.integerValue? s with
  | some n => .ok n
  | none => failWith (.notAnInteger (Text.quoted (String.ofList s)))

/-- An integer without its sign and without underscores. -/
def magnitude (s : List Char) : Except Fault Int :=
  match s with
  | [] => .error (.failed .noCharacter)
  | ['0'] => .ok 0
  | '0' :: 'b' :: rest => valueInBase 2 rest
  | '0' :: 'x' :: rest => valueInBase 16 rest
  | '0' :: _ => valueInBase 8 s
  | _ =>
    if s.contains ':' then do
      let parts ← (Text.splitAt ':' s).mapM decimalValue
      return parts.foldl (fun n part => 60 * n + part) 0
    else decimalValue s

def intValue (text : String) : Except Fault Datum := do
  let (negative, s) := Binary64.signOf (text.toList.filter (· != '_'))
  let n ← magnitude s
  return .int (if negative then -n else n)

def floatOfText (s : List Char) : Except Fault Binary64 :=
  match Binary64.ofText? s with
  | some x => .ok x
  | none => failWith (.notADecimal (Text.quoted (String.ofList s)))

/-- The sum of parts in base sixty, the last one being the unit, added from the last one on. -/
def sexagesimalSum (parts : List Binary64) : Binary64 :=
  let step (acc : Binary64 × Nat) (part : Binary64) : Binary64 × Nat :=
    (acc.1.add (part.mul (.ofInt acc.2)), 60 * acc.2)
  (parts.reverse.foldl step (Binary64.zero false, 1)).1

def floatValue (text : String) : Except Fault Datum := do
  let plain := (Text.lower (String.ofList (text.toList.filter (· != '_')))).toList
  let (negative, s) := Binary64.signOf plain
  let x ←
    if plain.isEmpty then .error (.failed .noCharacter)
    else if s == ".inf".toList then pure (.infinity false)
    else if s == ".nan".toList then pure .nan
    else if s.contains ':' then do
      let parts ← (Text.splitAt ':' s).mapM floatOfText
      pure (sexagesimalSum parts)
    else floatOfText s
  return .float (if negative then x.neg else x)

def timestampValue (text : String) : Except Fault Datum :=
  let s := text.toList
  let s := if s.getLast? == some '\n' then s.dropLast else s
  match Moment.ofText? s with
  | none => .error (.failed (.noAttribute "NoneType" "groupdict"))
  | some m =>
    match m.value with
    | .ok d => .ok d
    | .error f => failWith (.calendar f)

def binaryValue (text : String) : Except Fault Datum :=
  if text.toList.any fun c => 128 ≤ c.toNat then refuse .malformedBinary
  else
    match Text.decodeBase64 text.toList with
    | some octets => .ok (.bytes octets)
    | none => refuse .malformedBinary

/-- The value of a text under a tag. -/
def Tag.scalarValue (tag : Tag) (text : String) : Except Fault Datum :=
  match tag with
  | .null => .ok .null
  | .bool => boolValue text
  | .int => intValue text
  | .float => floatValue text
  | .binary => binaryValue text
  | .timestamp => timestampValue text
  | .str => .ok (.str text)
  | _ => refuse .unknownTag

end SchemaReview.Yaml
