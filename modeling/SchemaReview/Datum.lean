import SchemaReview.Calendar
import SchemaReview.Json.Basic
import SchemaReview.Number.Shortest
import SchemaReview.Text.Quoted

/-!
# Plain data

The values of configuration files: those of JSON, and beyond them mappings with keys of any kind,
calendar dates, points in time and byte strings. Every value has two texts: `shown`, which quotes
strings, and `text`, which gives a string as it is.
-/
namespace SchemaReview

inductive Datum where
  | null
  | bool (b : Bool)
  | int (n : Int)
  | float (x : Binary64)
  | str (s : String)
  | list (items : List Datum)
  | mapping (entries : List (Datum × Datum))
  | date (year month day : Nat)
  | timestamp (t : Timestamp)
  | bytes (octets : List UInt8)
deriving Repr, BEq, Inhabited

namespace Json

mutual

/-- A JSON value as plain data. -/
def toDatum : Json → Datum
  | .null => .null
  | .bool b => .bool b
  | .int n => .int n
  | .float x => .float x
  | .str s => .str s
  | .arr items => .list (itemsToDatum items)
  | .obj members => .mapping (membersToDatum members)

def itemsToDatum : List Json → List Datum
  | [] => []
  | x :: xs => toDatum x :: itemsToDatum xs

def membersToDatum : List (String × Json) → List (Datum × Datum)
  | [] => []
  | (k, v) :: rest => (.str k, toDatum v) :: membersToDatum rest

end

end Json

namespace Datum

/-- One octet of a byte string between quotes of the given kind. -/
def quotedOctet (quote : Char) (b : UInt8) : List Char :=
  let c := Char.ofNat b.toNat
  if c == quote || c == '\\' then ['\\', c]
  else if c == '\n' then ['\\', 'n']
  else if c == '\r' then ['\\', 'r']
  else if c == '\t' then ['\\', 't']
  else if b < 0x20 || 0x7F ≤ b then '\\' :: 'x' :: Text.hexDigits 2 b.toNat
  else [c]

/-- A byte string between quotes. -/
def bytesShown (octets : List UInt8) : String :=
  let chars := octets.map fun b => Char.ofNat b.toNat
  let quote := Text.quoteFor chars
  String.ofList ('b' :: quote :: octets.flatMap (quotedOctet quote) ++ [quote])

mutual

/-- The text of a value with its strings quoted. -/
def shown : Datum → String
  | .null => "None"
  | .bool b => if b then "True" else "False"
  | .int n => toString n
  | .float x => x.toText
  | .str s => Text.quoted s
  | .list items => "[" ++ ", ".intercalate (shownItems items) ++ "]"
  | .mapping entries => "\x7b" ++ ", ".intercalate (shownEntries entries) ++ "\x7d"
  | .date y m d =>
    "datetime.date(" ++ toString y ++ ", " ++ toString m ++ ", " ++ toString d ++ ")"
  | .timestamp t => t.shown
  | .bytes octets => bytesShown octets

def shownItems : List Datum → List String
  | [] => []
  | x :: xs => x.shown :: shownItems xs

def shownEntries : List (Datum × Datum) → List String
  | [] => []
  | (k, v) :: rest => (k.shown ++ ": " ++ v.shown) :: shownEntries rest

end

/-- The text of a value; a string is its own text. -/
def text : Datum → String
  | .str s => s
  | .date y m d => padded 4 y ++ "-" ++ padded 2 m ++ "-" ++ padded 2 d
  | .timestamp t => t.text
  | x => x.shown

/-- The name of a value's type, as error texts give it. -/
def typeName : Datum → String
  | .null => "NoneType"
  | .bool _ => "bool"
  | .int _ => "int"
  | .float _ => "float"
  | .str _ => "str"
  | .list _ => "list"
  | .mapping _ => "dict"
  | .date .. => "date"
  | .timestamp _ => "datetime"
  | .bytes _ => "bytes"

end Datum

namespace Datum

/-- A boolean or number as a number. -/
def number? : Datum → Option Json.Number
  | .bool b => some (.int (if b then 1 else 0))
  | .int n => some (.int n)
  | .float x => some (.float x)
  | _ => none

/-- Whether two values are the same key of a mapping. Lists and mappings are no keys. -/
def sameKey (a b : Datum) : Bool :=
  match a, b with
  | .str s, .str t => s == t
  | .null, .null => true
  | .date y m d, .date y' m' d' => y == y' && m == m' && d == d'
  | .timestamp s, .timestamp t => s.isSameInstant t
  | .bytes s, .bytes t => s == t
  | _, _ =>
    match a.number?, b.number? with
    | some m, some n => m.same n
    | _, _ => false

/-- The entry of a mapping with a given key. -/
def entry? (entries : List (Datum × Datum)) (key : Datum) : Option Datum :=
  (entries.find? fun e => e.1.sameKey key).map (·.2)

/-- The entry of a mapping under a text. -/
def textEntry? (entries : List (Datum × Datum)) (key : String) : Option Datum :=
  entry? entries (.str key)

/-- A mapping with one entry set: a key that is present keeps its place and its form. -/
def setEntry (entries : List (Datum × Datum)) (key value : Datum) : List (Datum × Datum) :=
  match entries with
  | [] => [(key, value)]
  | (k, v) :: rest =>
    if k.sameKey key then (k, value) :: rest else (k, v) :: setEntry rest key value

/-- A mapping with the entries of another one set. -/
def updateEntries (entries others : List (Datum × Datum)) : List (Datum × Datum) :=
  others.foldl (fun acc e => setEntry acc e.1 e.2) entries

/-- Whether a value counts as present: not null, false, zero or empty. -/
def isTruthy : Datum → Bool
  | .null => false
  | .bool b => b
  | .int n => n != 0
  | .float x => x.isNonzero
  | .str s => s != ""
  | .list items => !items.isEmpty
  | .mapping entries => !entries.isEmpty
  | .bytes octets => !octets.isEmpty
  | _ => true

end Datum

namespace Json

/-- The text of a JSON value with its strings quoted. -/
def shown (v : Json) : String := v.toDatum.shown

/-- The text of a JSON value; a string is its own text. -/
def toText (v : Json) : String := v.toDatum.text

end Json
end SchemaReview
