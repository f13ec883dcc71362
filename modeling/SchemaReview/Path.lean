/-!
# Structural paths

A path names the way from the root of a schema to a node: field names and union positions. Shown as
a pointer, each step is escaped and preceded by a slash, so that different paths of texts have
different pointers.
-/
namespace SchemaReview

/-- One step of a path. -/
inductive Step where
  | name (text : String)
  | index (position : Nat)
deriving DecidableEq, Repr

abbrev Path := List Step

namespace Step

def text : Step → String
  | .name text => text
  | .index position => toString position

end Step

namespace Path

/-- A step of a pointer: `~` and `/` are written `~0` and `~1`. -/
def escape (text : String) : String :=
  String.ofList (text.toList.flatMap fun c =>
    if c == '~' then ['~', '0'] else if c == '/' then ['~', '1'] else [c])

/-- The pointer of the steps with the given texts; the root's pointer is empty. -/
def pointerOfTexts (texts : List String) : String :=
  String.join (texts.map fun t => "/" ++ escape t)

/-- The pointer of a path. -/
def pointer (path : Path) : String := pointerOfTexts (path.map Step.text)

/-- The steps with slashes between them, unescaped. -/
def joined (path : Path) : String := "/".intercalate (path.map Step.text)

end Path
end SchemaReview
