import SchemaReview.Number.Binary64

/-!
# JSON values

Whole numbers and floating-point numbers stay distinct, and the members of an object keep the order
in which they were written. Two notions of equality are kept apart: structural equality, and the
equality of values, under which `1`, `1.0` and `true` are equal and objects have no order.
-/
namespace SchemaReview

inductive Json where
  | null
  | bool (b : Bool)
  | int (n : Int)
  | float (x : Binary64)
  | str (s : String)
  | arr (items : List Json)
  | obj (members : List (String × Json))
deriving Repr, BEq, Inhabited

namespace Json

/-- The member of an object with a given key. -/
def member? (members : List (String × Json)) (key : String) : Option Json :=
  match members with
  | [] => none
  | (k, v) :: rest => if k = key then some v else member? rest key

theorem sizeOf_lt_of_member? {members : List (String × Json)} {key : String} {v : Json}
    (h : member? members key = some v) : sizeOf v < sizeOf members := by
  induction members with
  | nil => simp [member?] at h
  | cons kv rest ih =>
    obtain ⟨k, w⟩ := kv
    simp only [member?] at h
    split at h
    · cases h
      simp only [List.cons.sizeOf_spec, Prod.mk.sizeOf_spec]
      omega
    · have := ih h
      simp only [List.cons.sizeOf_spec]
      omega

/-- Whether an object has a member with a given key. -/
def hasMember (members : List (String × Json)) (key : String) : Bool :=
  (member? members key).isSome

/-- The member with a given key, `null` if there is none. -/
def memberOrNull (members : List (String × Json)) (key : String) : Json :=
  (member? members key).getD .null

/-- An object with one member set: a key that is present keeps its place. -/
def setMember (members : List (String × Json)) (key : String) (value : Json) :
    List (String × Json) :=
  match members with
  | [] => [(key, value)]
  | (k, v) :: rest => if k = key then (k, value) :: rest else (k, v) :: setMember rest key value

/-- A boolean or number as a number. -/
inductive Number where
  | int (n : Int)
  | float (x : Binary64)

def number? : Json → Option Number
  | .bool b => some (.int (if b then 1 else 0))
  | .int n => some (.int n)
  | .float x => some (.float x)
  | _ => none

/-- Numeric equality, under which not a number differs from itself. -/
def Number.eq : Number → Number → Bool
  | .int a, .int b => a == b
  | .int a, .float x => x.eqInt a
  | .float x, .int a => x.eqInt a
  | .float x, .float y => x.numEq y

/-- Numeric equality of members and elements, where not a number equals itself. -/
def Number.same : Number → Number → Bool
  | .float .nan, .float .nan => true
  | a, b => a.eq b

/-- Whether a number is smaller than another one. Nothing is smaller or larger than what is not a
number. -/
def Number.lt : Number → Number → Bool
  | .int a, .int b => a < b
  | .float x, .int a => x.ltInt a
  | .int a, .float x => x.gtInt a
  | .float x, .float y => x.lt y

mutual

/-- Equality of values that are members or elements of equal containers. -/
def same : Json → Json → Bool
  | .null, b => match b with | .null => true | _ => false
  | .str s, b => match b with | .str t => s == t | _ => false
  | .arr xs, b => match b with | .arr ys => sameItems xs ys | _ => false
  | .obj xs, b =>
    match b with
    | .obj ys => xs.length == ys.length && sameMembers xs ys
    | _ => false
  | .bool x, b =>
    match b.number? with
    | some n => (Number.int (if x then 1 else 0)).same n
    | none => false
  | .int x, b =>
    match b.number? with
    | some n => (Number.int x).same n
    | none => false
  | .float x, b =>
    match b.number? with
    | some n => (Number.float x).same n
    | none => false

/-- Equality of lists, element by element. -/
def sameItems : List Json → List Json → Bool
  | [], ys => ys.isEmpty
  | x :: xs, ys =>
    match ys with
    | [] => false
    | y :: ys => same x y && sameItems xs ys

/-- Whether every member is found in another object with an equal value. -/
def sameMembers : List (String × Json) → List (String × Json) → Bool
  | [], _ => true
  | (k, v) :: rest, ys =>
    match member? ys k with
    | some w => same v w && sameMembers rest ys
    | none => false

end

/-- Equality of two values: that of elements, but a bare not-a-number differs from itself. -/
def equals : Json → Json → Bool
  | .float .nan, _ => false
  | a, b => same a b

/-- Whether a value counts as present: not null, false, zero or empty. -/
def isTruthy : Json → Bool
  | .null => false
  | .bool b => b
  | .int n => n != 0
  | .float x => x.isNonzero
  | .str s => s != ""
  | .arr items => !items.isEmpty
  | .obj members => !members.isEmpty

/-- The name of a value's type, as error texts give it. -/
def typeName : Json → String
  | .null => "NoneType"
  | .bool _ => "bool"
  | .int _ => "int"
  | .float _ => "float"
  | .str _ => "str"
  | .arr _ => "list"
  | .obj _ => "dict"

def isNull : Json → Bool
  | .null => true
  | _ => false

/-- A member of an object, left out when its value is absent. -/
def present (key : String) (value : Json) : List (String × Json) :=
  if value.isNull then [] else [(key, value)]

/-- A value that may be absent. -/
def ofOption {α : Type} (toJson : α → Json) : Option α → Json
  | some a => toJson a
  | none => .null

end Json
end SchemaReview
