import SchemaReview.Text.CharacterName.Alias
import SchemaReview.Text.CharacterName.American
import SchemaReview.Text.CharacterName.Asian
import SchemaReview.Text.CharacterName.EastAsian
import SchemaReview.Text.CharacterName.Notation
import SchemaReview.Text.CharacterName.Pictograph
import SchemaReview.Text.CharacterName.Supplementary
import SchemaReview.Text.CharacterName.Symbol
import SchemaReview.Text.CharacterName.Western
import SchemaReview.Text.Digit

/-!
# Characters by name

Every character of the standard has a name of capital letters, digits, spaces and hyphens. Names are
found in small letters too, but for those of Hangul syllables and unified ideographs, which are
computed and not listed: the former are put together from the names of their letters, the latter
are named by their number, as some other code points are.
-/
namespace SchemaReview.Text

/-!
## Hangul syllables

A syllable is named by its leading consonant, its vowel and its trailing consonant, of which the two
consonants may be empty. The syllables are ordered by these three.
-/

namespace Hangul

def leads : List String :=
  ["G", "GG", "N", "D", "DD", "R", "M", "B", "BB", "S", "SS", "", "J", "JJ", "C", "K", "T", "P", "H"]

def vowels : List String :=
  ["A", "AE", "YA", "YAE", "EO", "E", "YEO", "YE", "O", "WA", "WAE", "OE", "YO", "U", "WEO", "WE",
    "WI", "YU", "EU", "YI", "I"]

def trails : List String :=
  ["", "G", "GG", "GS", "N", "NJ", "NH", "D", "L", "LG", "LM", "LB", "LS", "LT", "LP", "LH", "M",
    "B", "BS", "S", "SS", "NG", "J", "C", "K", "T", "P", "H"]

/-- The longest of some parts with which a text begins: its position among them, and the rest of the
text. -/
def longestPart? (parts : List String) (text : List Char) : Option (Nat × List Char) :=
  let found := parts.zipIdx.filterMap fun (part, i) =>
    (part.toList.isPrefixOf? text).map fun rest => (i, rest)
  found.foldl (fun best next =>
    match best with
    | none => some next
    | some b => if next.2.length < b.2.length then some next else best) none

/-- The code point of the first syllable. -/
def firstSyllable : Nat := 0xAC00

/-- The syllable whose parts a text spells. -/
def syllable? (text : List Char) : Option Nat := do
  let (lead, text) ← longestPart? leads text
  let (vowel, text) ← longestPart? vowels text
  let (trail, text) ← longestPart? trails text
  if text.isEmpty then
    some (firstSyllable + (lead * vowels.length + vowel) * trails.length + trail)
  else none

end Hangul

/-!
## Numbered names

Some code points are named by a text and their own number in hexadecimal digits. Of the unified
ideographs, those without a fifth digit may be written with a leading zero.
-/

/-- Code points from a first to a last one that are named by their number. -/
structure NumberedRun where
  first : Nat
  last : Nat
  stem : String
deriving DecidableEq, Repr

/-- The number that four or five hexadecimal digits spell, the letters among them in capitals. -/
def hexNumber? (digits : List Char) : Option Nat := do
  let values ← digits.mapM fun c => if c.isLower then none else hexValue? c
  if values.length = 4 ∨ values.length = 5 then some (values.foldl (16 * · + ·) 0) else none

/-- The code point of a run that has a name. -/
def NumberedRun.code? (run : NumberedRun) (name : List Char) : Option Nat := do
  let digits ← run.stem.toList.isPrefixOf? name
  let n ← hexNumber? digits
  let isWhole := digits.length = (if n < 0x10000 then 4 else 5)
  if run.first ≤ n ∧ n ≤ run.last ∧ isWhole then some n else none

def numberedRuns : List NumberedRun :=
  [⟨0xF900, 0xFA6D, "CJK COMPATIBILITY IDEOGRAPH-"⟩,
   ⟨0xFA70, 0xFAD9, "CJK COMPATIBILITY IDEOGRAPH-"⟩,
   ⟨0x2F800, 0x2FA1D, "CJK COMPATIBILITY IDEOGRAPH-"⟩,
   ⟨0x18B00, 0x18CD5, "KHITAN SMALL SCRIPT CHARACTER-"⟩,
   ⟨0x1B170, 0x1B2FB, "NUSHU CHARACTER-"⟩]

/-- The unified ideographs. -/
def ideographRanges : List (Nat × Nat) :=
  [(0x3400, 0x4DBF), (0x4E00, 0x9FFF), (0x20000, 0x2A6DF), (0x2A700, 0x2B738), (0x2B740, 0x2B81D),
   (0x2B820, 0x2CEA1), (0x2CEB0, 0x2EBE0), (0x30000, 0x3134A)]

/-- The unified ideograph with a number. -/
def ideograph? (digits : List Char) : Option Nat := do
  let n ← hexNumber? digits
  if ideographRanges.any fun r => r.1 ≤ n && n ≤ r.2 then some n else none

/-!
## All names
-/

/-- All names that are listed, area by area, and the aliases. -/
def nameAreas : List (List NameRun) :=
  [characterAliases, europeanNames, middleEasternNames, southAsianNames, asianNames,
   americanNames, phoneticNames, technicalNames, shapeNames, eastAsianNames, syllabaryNames,
   presentationNames, ancientNames, brahmicNames, cuneiformNames, supplementaryNames,
   notationNames, pictographNames]

/-- The code point with a name that is listed. -/
def listedCode? (name : List Char) : Option Nat :=
  nameAreas.findSome? fun runs => runs.findSome? fun run => run.code? name

/-- The code point with a name or an alias. -/
def codeNamed? (name : String) : Option Nat :=
  let name := name.toList
  match "HANGUL SYLLABLE ".toList.isPrefixOf? name with
  | some parts => Hangul.syllable? parts
  | none =>
    match "CJK UNIFIED IDEOGRAPH-".toList.isPrefixOf? name with
    | some digits => ideograph? digits
    | none =>
      let capitals := name.map Char.toUpper
      (numberedRuns.findSome? fun run => run.code? capitals) <|> listedCode? capitals

end SchemaReview.Text
