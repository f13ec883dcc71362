/-!
# Pieces of a text
-/
namespace SchemaReview.Text

/-- The pieces of a text between the separators; without a separator the text is the only piece. -/
def splitAt (separator : Char) : List Char → List (List Char)
  | [] => [[]]
  | c :: rest =>
    if c == separator then [] :: splitAt separator rest
    else
      match splitAt separator rest with
      | [] => [[c]]
      | piece :: pieces => (c :: piece) :: pieces

end SchemaReview.Text
