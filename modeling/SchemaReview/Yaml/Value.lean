import SchemaReview.Yaml.ScalarValue

/-!
# Values of nodes

The plain data that a tree of nodes stands for. Under a merge key a mapping takes over the entries
of other mappings, which come first and give way to its own; of several merged mappings the first
one wins. The content of collections is looked at level by level, so of several faults the one at
the highest level counts, and of those at one level the first.
-/
namespace SchemaReview.Yaml

/-- The value of a node, and the faults in it with the number of levels that they lie below it. With
a fault the value is a stand-in of the same shape. -/
structure Reading where
  value : Datum
  faults : List (Nat × Fault) := []

namespace Reading

def failed (value : Datum) (level : Nat) (problem : Problem) : Reading :=
  ⟨value, [(level, .unreadable problem)]⟩

def ofScalar : Except Fault Datum → Reading
  | .ok value => ⟨value, []⟩
  | .error f => ⟨.null, [(0, f)]⟩

/-- The faults of a part, as seen from the whole. -/
def innerFaults (r : Reading) : List (Nat × Fault) := r.faults.map fun (n, f) => (n + 1, f)

end Reading

/-- Whether a value can be the key of a mapping. -/
def isHashable : Datum → Bool
  | .list _ => false
  | .mapping _ => false
  | _ => true

/-- The entries of a mapping: those that it takes over, then its own. A fault keeps it from taking
over what it should. -/
structure Entries where
  merged : List (Reading × Reading) := []
  own : List (Reading × Reading) := []
  problem : Option Problem := none

namespace Entries

def all (e : Entries) : List (Reading × Reading) := e.merged ++ e.own

/-- The faults of an entry, as seen from the mapping. -/
def entryFaults (entry : Reading × Reading) : List (Nat × Fault) :=
  entry.1.innerFaults ++
    (if isHashable entry.1.value then [] else [(1, .unreadable .unhashableKey)]) ++
    entry.2.innerFaults

def reading (e : Entries) : Reading :=
  let problems := e.problem.toList.map fun p => (1, Fault.unreadable p)
  ⟨.mapping (Datum.updateEntries [] (e.all.map fun (k, v) => (k.value, v.value))),
    problems ++ e.all.flatMap entryFaults⟩

end Entries

namespace Node

mutual

/-- The text of a scalar, or of the main value of a mapping. -/
def scalarText? : Node → Option String
  | .scalar _ text _ => some text
  | .mapping _ entries _ => mainText? entries
  | _ => none

def mainText? : List (Node × Node) → Option String
  | [] => none
  | (k, v) :: rest => if k.tag = .value then v.scalarText? else mainText? rest

end

/-- The value of a collection under a tag that is not its own kind's. Its main value may stand for
it, but not as a point in time. -/
def otherReading (tag : Tag) (main : Option String) : Reading :=
  match tag with
  | .seq => .failed (.list []) 1 .unfitNode
  | .map => .failed (.mapping []) 1 .unfitNode
  | tag =>
    if tag.isScalar then
      match main with
      | some text =>
        if tag = .timestamp then .ofScalar (.error (.failed (.type (.notText "list"))))
        else .ofScalar (tag.scalarValue text)
      | none => .failed .null 0 .unfitNode
    else .failed .null 0 .unknownTag

mutual

/-- The value of a node and the faults in it. -/
def reading : Node → Reading
  | .scalar tag text _ =>
    if tag = .seq || tag = .map then otherReading tag none else .ofScalar (tag.scalarValue text)
  | .sequence tag items _ =>
    if tag = .seq then
      let parts := itemReadings items
      ⟨.list (parts.map (·.value)), parts.flatMap (·.innerFaults)⟩
    else otherReading tag none
  | .mapping tag entries start =>
    if tag = .map then (entriesOf entries).reading
    else otherReading tag (scalarText? (.mapping tag entries start))
  | .enclosing _ => ⟨.null, []⟩

def itemReadings : List Node → List Reading
  | [] => []
  | x :: rest => x.reading :: itemReadings rest

/-- The entries of a mapping with those of merged mappings. -/
def entriesOf : List (Node × Node) → Entries
  | [] => {}
  | (k, v) :: rest =>
    let others := entriesOf rest
    if k.tag = .merge then
      match v.mergedEntries with
      | .ok entries => { others with merged := entries ++ others.merged }
      | .error p => { others with problem := some p }
    else
      let key := if k.tag = .value then ⟨.str (k.scalarText?.getD ""), []⟩ else k.reading
      { others with own := (key, v.reading) :: others.own }

/-- The entries that a mapping takes over from the node under its merge key. -/
def mergedEntries : Node → Except Problem (List (Reading × Reading))
  | .mapping _ entries _ =>
    let e := entriesOf entries
    match e.problem with
    | some p => .error p
    | none => .ok e.all
  | .sequence _ items _ => mergedItems items
  | _ => .error .unmergeable

/-- The entries of several mappings, those of the last one first. -/
def mergedItems : List Node → Except Problem (List (Reading × Reading))
  | [] => .ok []
  | .mapping _ entries _ :: rest => do
    let e := entriesOf entries
    match e.problem with
    | some p => throw p
    | none => return (← mergedItems rest) ++ e.all
  | _ => .error .unmergeable

end

/-- The plain data that a tree of nodes stands for. -/
def value (root : Node) : Except Fault Datum :=
  let r := root.reading
  let first := r.faults.foldl
    (fun best f => match best with
      | none => some f
      | some b => if f.1 < b.1 then some f else best)
    (none : Option (Nat × Fault))
  match first with
  | some (_, f) => .error f
  | none => .ok r.value

end Node
end SchemaReview.Yaml
