import SchemaReview.Json.Basic
import SchemaReview.Number.Shortest
import SchemaReview.Text.Quoted

/-!
# Writing JSON text

One writer with a style: the separators, whether members are sorted by key, and whether characters
beyond ASCII are escaped.
-/
namespace SchemaReview.Json

structure Style where
  itemSeparator : String
  keySeparator : String
  sorted : Bool
  asciiOnly : Bool

/-- No blanks; members in their own order. -/
def Style.compact : Style := ⟨",", ":", false, false⟩

/-- No blanks; members sorted by key. -/
def Style.canonical : Style := ⟨",", ":", true, false⟩

/-- A blank after each separator, members sorted by key, ASCII only. -/
def Style.spacedAscii : Style := ⟨", ", ": ", true, true⟩

def unicodeEscape (n : Nat) : List Char := '\\' :: 'u' :: Text.hexDigits 4 n

/-- One character of a string. -/
def escapeChar (asciiOnly : Bool) (c : Char) : List Char :=
  if c == '"' || c == '\\' then ['\\', c]
  else if c == '\n' then ['\\', 'n']
  else if c == '\r' then ['\\', 'r']
  else if c == '\t' then ['\\', 't']
  else if c == '\x08' then ['\\', 'b']
  else if c == '\x0c' then ['\\', 'f']
  else if c.toNat < 0x20 then unicodeEscape c.toNat
  else if asciiOnly && 0x7F ≤ c.toNat then
    if c.toNat < 0x10000 then unicodeEscape c.toNat
    else
      let n := c.toNat - 0x10000
      unicodeEscape (0xD800 + n / 0x400) ++ unicodeEscape (0xDC00 + n % 0x400)
  else [c]

/-- A string between double quotes. -/
def stringText (asciiOnly : Bool) (s : String) : String :=
  String.ofList ('"' :: s.toList.flatMap (escapeChar asciiOnly) ++ ['"'])

def floatText : Binary64 → String
  | .nan => "NaN"
  | .infinity negative => if negative then "-Infinity" else "Infinity"
  | x => x.toText

/-- Members sorted by key, in the order of code points. -/
def sortMembers (members : List (String × String)) : List (String × String) :=
  members.mergeSort fun a b => a.1 ≤ b.1

mutual

/-- The text of a value in a style. -/
def write (style : Style) : Json → String
  | .null => "null"
  | .bool b => if b then "true" else "false"
  | .int n => toString n
  | .float x => floatText x
  | .str s => stringText style.asciiOnly s
  | .arr items => "[" ++ style.itemSeparator.intercalate (writeItems style items) ++ "]"
  | .obj members =>
    let written := writeMembers style members
    let ordered := if style.sorted then sortMembers written else written
    let texts := ordered.map fun (k, v) => stringText style.asciiOnly k ++ style.keySeparator ++ v
    "\x7b" ++ style.itemSeparator.intercalate texts ++ "\x7d"

def writeItems (style : Style) : List Json → List String
  | [] => []
  | x :: xs => write style x :: writeItems style xs

def writeMembers (style : Style) : List (String × Json) → List (String × String)
  | [] => []
  | (k, v) :: rest => (k, write style v) :: writeMembers style rest

end

end SchemaReview.Json
