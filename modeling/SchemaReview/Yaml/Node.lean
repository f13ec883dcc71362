import SchemaReview.Text.Quoted
import SchemaReview.Yaml.Cursor

/-!
# Nodes

A document as a tree of scalars, sequences and mappings. Each node has a tag, which says what it
stands for, and the place where it starts. An alias is the node that it names.
-/
namespace SchemaReview.Yaml

inductive Tag where
  | null
  | bool
  | int
  | float
  | binary
  | timestamp
  | str
  | seq
  | map
  /-- The key under which entries of other mappings are taken over. -/
  | merge
  /-- The key of a mapping's main value. -/
  | value
  | other (name : String)
deriving DecidableEq, Repr, Inhabited

namespace Tag

/-- What the names of the standard tags start with. -/
def standardNamespace : String := "tag:yaml.org,2002:"

def standardNames : List (String × Tag) :=
  [("null", .null), ("bool", .bool), ("int", .int), ("float", .float), ("binary", .binary),
    ("timestamp", .timestamp), ("str", .str), ("seq", .seq), ("map", .map), ("merge", .merge),
    ("value", .value)]

def ofName (name : String) : Tag :=
  match standardNames.find? fun t => standardNamespace ++ t.1 = name with
  | some (_, tag) => tag
  | none => .other name

def name : Tag → String
  | .other name => name
  | tag => standardNamespace ++ ((standardNames.find? fun t => t.2 = tag).map (·.1)).getD ""

/-- Whether the nodes with a tag are single values. -/
def isScalar : Tag → Bool
  | .null => true
  | .bool => true
  | .int => true
  | .float => true
  | .binary => true
  | .timestamp => true
  | .str => true
  | _ => false

end Tag

inductive Node where
  | scalar (tag : Tag) (text : String) (start : Mark)
  | sequence (tag : Tag) (items : List Node) (start : Mark)
  | mapping (tag : Tag) (entries : List (Node × Node)) (start : Mark)
  /-- An alias inside the node that it names. -/
  | enclosing (start : Mark)
deriving Repr, Inhabited

namespace Node

def tag : Node → Tag
  | .scalar tag _ _ => tag
  | .sequence tag _ _ => tag
  | .mapping tag _ _ => tag
  | .enclosing _ => .null

def start : Node → Mark
  | .scalar _ _ start => start
  | .sequence _ _ start => start
  | .mapping _ _ start => start
  | .enclosing start => start

mutual

/-- A node as a message shows it. -/
def shown : Node → String
  | .scalar tag text _ =>
    "ScalarNode(tag=" ++ Text.quoted tag.name ++ ", value=" ++ Text.quoted text ++ ")"
  | .sequence tag items _ =>
    "SequenceNode(tag=" ++ Text.quoted tag.name ++ ", value=[" ++
      ", ".intercalate (shownItems items) ++ "])"
  | .mapping tag entries _ =>
    "MappingNode(tag=" ++ Text.quoted tag.name ++ ", value=[" ++
      ", ".intercalate (shownEntries entries) ++ "])"
  | .enclosing _ => "..."

def shownItems : List Node → List String
  | [] => []
  | x :: rest => x.shown :: shownItems rest

def shownEntries : List (Node × Node) → List String
  | [] => []
  | (k, v) :: rest => ("(" ++ k.shown ++ ", " ++ v.shown ++ ")") :: shownEntries rest

end

/-- The text of a node that is the key of a mapping: of a scalar its own text. -/
def keyText : Node → String
  | .scalar _ text _ => text
  | .sequence _ items _ => "[" ++ ", ".intercalate (shownItems items) ++ "]"
  | .mapping _ entries _ => "[" ++ ", ".intercalate (shownEntries entries) ++ "]"
  | .enclosing _ => "..."

end Node
end SchemaReview.Yaml
