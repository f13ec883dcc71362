/-!
# Blank characters

Stripping and splitting of text go by every blank character of Unicode, the four separator controls
included, and not by spaces that have no width.
-/
namespace SchemaReview.Text

/-- A character that separates words. -/
def isBlank (c : Char) : Bool :=
  let n := c.toNat
  (9 ≤ n && n ≤ 13) || (28 ≤ n && n ≤ 32) || n == 0x85 || n == 0xA0 || n == 0x1680 ||
  (0x2000 ≤ n && n ≤ 0x200A) || n == 0x2028 || n == 0x2029 || n == 0x202F || n == 0x205F ||
  n == 0x3000

/-- A text without the blanks at its end. -/
def stripEnd (s : List Char) : List Char := (s.reverse.dropWhile isBlank).reverse

/-- A text without the blanks at both ends. -/
def stripChars (s : List Char) : List Char := stripEnd (s.dropWhile isBlank)

/-- A text without the blanks at both ends. -/
def strip (s : String) : String := String.ofList (stripChars s.toList)

/-- The words of a text: its maximal runs of characters that are not blank. -/
def words : List Char → List (List Char)
  | [] => []
  | c :: rest =>
    if isBlank c then words rest
    else
      match rest with
      | [] => [[c]]
      | d :: _ =>
        if isBlank d then [c] :: words rest
        else
          match words rest with
          | [] => [[c]]
          | w :: ws => (c :: w) :: ws

/-- The words of a text with one space between them. -/
def normalizeBlanks (s : List Char) : List Char := [' '].intercalate (words s)

/-- Whether a text has nothing but blanks. -/
def isBlankText (s : String) : Bool := s.toList.all isBlank

end SchemaReview.Text
