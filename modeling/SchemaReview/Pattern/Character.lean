import SchemaReview.Pattern.Basic
import SchemaReview.Text.LetterCase

/-!
# One character against a pattern

Which characters a literal or a bracketed set stands for. Where case is ignored, a code point
without case still stands for itself only; one with case stands for all characters whose lower-case
forms are the same or share their upper-case form. A set folds all its elements or none. Code points
beyond the first plane are not folded in sets, except that a range takes both forms of a character.
-/
namespace SchemaReview.Pattern

namespace Flags

/-- The lower-case form of a code point where case is ignored. -/
def lower (flags : Flags) (n : Nat) : Nat :=
  if flags.ascii then (if 0x41 ≤ n && n ≤ 0x5A then n + 32 else n) else Text.lowerCode n

/-- Whether a code point has a form in the other case. -/
def isCased (flags : Flags) (n : Nat) : Bool :=
  if flags.ascii then (0x41 ≤ n && n ≤ 0x5A) || (0x61 ≤ n && n ≤ 0x7A) else Text.hasCase n

/-- Whether a code point between two others has a form in the other case. -/
def isCasedBetween (flags : Flags) (first last : Nat) : Bool :=
  if flags.ascii then (first ≤ 0x5A && 0x41 ≤ last) || (first ≤ 0x7A && 0x61 ≤ last)
  else Text.hasCaseBetween first last

/-- The lower-case code points that count as equal to one. -/
def twins (flags : Flags) (n : Nat) : List Nat := if flags.ascii then [n] else Text.twinsOf n

/-- The code points with a lower-case form. -/
def sources (flags : Flags) (n : Nat) : List Nat :=
  if flags.ascii then
    (if 0x41 ≤ n && n ≤ 0x5A then [] else [n]) ++
      (if 0x61 ≤ n && n ≤ 0x7A then [n - 32] else [])
  else Text.lowerSources n

end Flags

/-- Whether a literal stands for a character. -/
def literalHolds (flags : Flags) (code : Nat) (c : Char) : Bool :=
  if flags.ignoreCase && flags.isCased code then
    (flags.twins (flags.lower code)).contains (flags.lower c.toNat)
  else c.toNat == code

/-- Whether two characters of a subject count as the same. -/
def sameChar (flags : Flags) (c d : Char) : Bool :=
  if flags.ignoreCase then flags.lower c.toNat == flags.lower d.toNat else c == d

/-- The first code point beyond the first plane. -/
def beyondPlane : Nat := 0x10000

namespace SetItem

/-- Whether the element makes its set fold characters where case is ignored. -/
def folds (flags : Flags) : SetItem → Bool
  | .single n => beyondPlane ≤ n || flags.isCased n
  | .range first last => beyondPlane ≤ last || flags.isCasedBetween first last
  | .ofClass .. => false

/-- Whether the element contains a character as it is. -/
def contains (flags : Flags) (c : Char) : SetItem → Bool
  | .single n => c.toNat == n
  | .range first last => first ≤ c.toNat && c.toNat ≤ last
  | .ofClass cls negated => cls.contains flags.ascii c != negated

/-- Whether the element contains a character whose lower-case form is given. -/
def containsFolded (flags : Flags) (l : Nat) : SetItem → Bool
  | .single n => if beyondPlane ≤ n then l == n else (flags.twins (flags.lower n)).contains l
  | .range first last =>
    (flags.twins l).any (fun t => (flags.sources t).any fun n =>
      first ≤ n && n ≤ last && n < beyondPlane) ||
    (beyondPlane ≤ last && ((first ≤ l && l ≤ last) ||
      (first ≤ Text.upperCode l && Text.upperCode l ≤ last)))
  | .ofClass cls negated => cls.contains flags.ascii (Char.ofNat l) != negated

end SetItem

/-- Whether a set without negation stands for a character. -/
def setHolds (flags : Flags) (items : List SetItem) (c : Char) : Bool :=
  if flags.ignoreCase && items.any (SetItem.folds flags) then
    items.any (SetItem.containsFolded flags (flags.lower c.toNat))
  else items.any (SetItem.contains flags c)

namespace Node

/-- Whether a node takes exactly one character, whatever comes after it. -/
def isUnit : Node → Bool
  | .literal .. => true
  | .any _ => true
  | .set .. => true
  | .scoped body => body.isUnit
  | _ => false

/-- Whether a node that takes one character takes a given one. -/
def unitHolds : Node → Char → Bool
  | .literal flags negated code, c => literalHolds flags code c != negated
  | .any flags, c => flags.dotAll || c != '\n'
  | .set flags negated items, c => setHolds flags items c != negated
  | .scoped body, c => body.unitHolds c
  | _, _ => false

end Node
end SchemaReview.Pattern
