import SchemaReview.Failure

/-!
# Sorting by a comparison that may fail

Some values have no order among each other. A sort then fails at the first comparison of two such
values, so which comparisons are made is part of the result: the run at the start of the list is
taken as it is, and every further element is placed by binary search.

Keys are such values. Texts are ordered by code points, numbers by value, dates and points in time
by time. Values of different sorts have no order.
-/
namespace SchemaReview
namespace Sorting

variable {α ε : Type} (lt : α → α → Except ε Bool)

/-- The length of the longest run that goes on after an element, in which each element comes before
its predecessor or, if `descending` is false, no one does. -/
def runFrom (descending : Bool) (previous : α) : List α → Except ε Nat
  | [] => .ok 0
  | x :: rest => do
    if (← lt x previous) = descending then return (← runFrom descending x rest) + 1
    else return 0

/-- The list with its first run ascending, and the length of that run. -/
def startRun (xs : List α) : Except ε (List α × Nat) :=
  match xs with
  | a :: b :: rest => do
    let descending ← lt b a
    let length := (← runFrom lt descending b rest) + 2
    if descending then return ((xs.take length).reverse ++ xs.drop length, length)
    else return (xs, length)
  | xs => .ok (xs, xs.length)

/-- Where an element belongs between two positions of a sorted list, after its equals. -/
def place (sorted : Array α) (x : α) : Nat → Nat → Nat → Except ε Nat
  | 0, low, _ => .ok low
  | fuel + 1, low, high => do
    if high ≤ low then return low
    else
      let middle := low + (high - low) / 2
      match sorted[middle]? with
      | none => return low
      | some y =>
        if ← lt x y then place sorted x fuel low middle
        else place sorted x fuel (middle + 1) high

def insertAll (sorted : Array α) : List α → Except ε (Array α)
  | [] => .ok sorted
  | x :: rest => do
    let position ← place lt sorted x sorted.size 0 sorted.size
    insertAll (sorted.insertIdxIfInBounds position x) rest

/-- The elements in ascending order; those that are equal keep their order. -/
def sort (xs : List α) : Except ε (List α) := do
  let (xs, length) ← startRun lt xs
  return (← insertAll lt (xs.take length).toArray (xs.drop length)).toList

end Sorting

/-! ### The order of keys -/

namespace Datum

/-- The full name of a value's type, as messages about its order give it. -/
def orderTypeName : Datum → String
  | .date .. => "datetime.date"
  | .timestamp _ => "datetime.datetime"
  | d => d.typeName

/-- Whether a key comes before another one. -/
def keyLt (a b : Datum) : Except TypeFault Bool :=
  match a, b with
  | .str s, .str t => .ok (s < t)
  | .bytes s, .bytes t => .ok (s < t)
  | .date y m d, .date y' m' d' => .ok ([y, m, d] < [y', m', d'])
  | .timestamp s, .timestamp t =>
    if s.offset.isSome = t.offset.isSome then .ok (s.instant < t.instant) else .error .mixedOffsets
  | .date .., .timestamp _ => .error .timestampWithDate
  | .timestamp _, .date .. => .error .timestampWithDate
  | _, _ =>
    match a.number?, b.number? with
    | some m, some n => .ok (m.lt n)
    | _, _ => .error (.notOrdered a.orderTypeName b.orderTypeName)

/-- Whether a path of keys comes before another one: the first keys that differ decide, and a path
comes before its continuations. -/
def pathLt : List Datum → List Datum → Except TypeFault Bool
  | [], others => .ok !others.isEmpty
  | _ :: _, [] => .ok false
  | a :: as, b :: bs => if a.sameKey b then pathLt as bs else keyLt a b

end Datum
end SchemaReview
