import SchemaReview.Path
import SchemaReview.Yaml.Node

/-!
# Source maps

Where the nodes of a document lie, by pointer. The steps of a pointer are the positions of items and
the texts of keys. Of several nodes with one pointer the last one counts. A pointer without a node
is located at the nearest node around it.
-/
namespace SchemaReview.Yaml

/-- The places of nodes, each pointer once. -/
structure SourceMap where
  places : List (String × Mark) := []
deriving Repr

namespace Node

mutual

/-- The nodes of a tree with the texts of the steps to them, each before the nodes inside it. -/
def places (path : List String) : Node → List (List String × Mark)
  | .scalar _ _ start => [(path, start)]
  | .sequence _ items start => (path, start) :: itemPlaces path 0 items
  | .mapping _ entries start => (path, start) :: entryPlaces path entries
  | .enclosing start => [(path, start)]

def itemPlaces (path : List String) (position : Nat) : List Node → List (List String × Mark)
  | [] => []
  | x :: rest => places (path ++ [toString position]) x ++ itemPlaces path (position + 1) rest

def entryPlaces (path : List String) : List (Node × Node) → List (List String × Mark)
  | [] => []
  | (k, v) :: rest => places (path ++ [k.keyText]) v ++ entryPlaces path rest

end

end Node

namespace SourceMap

def find? (m : SourceMap) (pointer : String) : Option Mark := m.places.lookup pointer

/-- A map with the place of a pointer set. -/
def insert (m : SourceMap) (pointer : String) (place : Mark) : SourceMap :=
  ⟨(pointer, place) :: m.places.filter fun p => p.1 ≠ pointer⟩

/-- The map of the nodes of a tree. -/
def ofNode (root : Node) : SourceMap :=
  (root.places []).foldl (fun m p => m.insert (Path.pointerOfTexts p.1) p.2) {}

/-- The characters of a pointer before its last step, the last character first. -/
def outer (reversed : List Char) : List Char := (reversed.dropWhile (· ≠ '/')).tail

theorem length_outer_lt (c : Char) (cs : List Char) :
    (outer (c :: cs)).length < (c :: cs).length := by
  have h := (List.dropWhile_sublist (l := c :: cs) fun x => decide (x ≠ '/')).length_le
  simp only [List.length_cons] at h
  simp only [outer, List.length_tail, List.length_cons]
  omega

def locateFrom (m : SourceMap) (reversed : List Char) : Option Mark :=
  match m.find? (String.ofList reversed.reverse) with
  | some place => some place
  | none =>
    match _h : reversed with
    | [] => none
    | c :: cs => m.locateFrom (outer (c :: cs))
termination_by reversed.length
decreasing_by exact length_outer_lt c cs

/-- The place of the node with a pointer, or of the nearest one around it. -/
def locate (m : SourceMap) (pointer : String) : Option Mark := m.locateFrom pointer.toList.reverse

end SourceMap
end SchemaReview.Yaml
