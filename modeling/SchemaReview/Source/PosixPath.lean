import SchemaReview.Text.Case
import SchemaReview.Text.Split

/-!
# Paths of files

A path is an optional root and a list of components. Empty components and single dots are dropped
when a path is read; double dots stay, because what they mean depends on the files.
-/
namespace SchemaReview

structure PosixPath where
  /-- The number of slashes of the root: none, one, or exactly two. -/
  root : Nat := 0
  parts : List String
deriving DecidableEq, Repr

namespace PosixPath

/-- The root that a number of leading slashes stands for: more than two are one. -/
def rootOf (slashes : Nat) : Nat := if 2 < slashes then 1 else slashes

def ofText (s : String) : PosixPath :=
  let pieces := (Text.splitAt '/' s.toList).filter fun p => p != [] && p != ['.']
  ⟨rootOf (s.toList.takeWhile (· == '/')).length, pieces.map String.ofList⟩

/-- The path in one text; the empty path is a dot. -/
def text (p : PosixPath) : String :=
  if p.root = 0 && p.parts.isEmpty then "."
  else String.ofList (List.replicate p.root '/') ++ "/".intercalate p.parts

/-- The last component, empty if there is none. -/
def name (p : PosixPath) : String := p.parts.getLast?.getD ""

/-- A component without its suffix, and the suffix with its dot. A dot at the start or at the end
begins no suffix. -/
def splitName (name : List Char) : List Char × List Char :=
  let reversed := name.reverse
  let extension := (reversed.takeWhile (· != '.')).reverse
  match reversed.dropWhile (· != '.') with
  | [] => (name, [])
  | _ :: stem =>
    if stem.isEmpty || extension.isEmpty then (name, []) else (stem.reverse, '.' :: extension)

def stem (p : PosixPath) : String := String.ofList (splitName p.name.toList).1

def suffix (p : PosixPath) : String := String.ofList (splitName p.name.toList).2

/-- The root and the components, the order of which is the order of paths. -/
def orderKey (p : PosixPath) : List String :=
  (if p.root = 0 then [] else [String.ofList (List.replicate p.root '/')]) ++ p.parts

/-- A path one component longer. -/
def child (p : PosixPath) (component : String) : PosixPath := ⟨p.root, p.parts ++ [component]⟩

end PosixPath
end SchemaReview
