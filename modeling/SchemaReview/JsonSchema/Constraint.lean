import SchemaReview.Datum
import SchemaReview.Path
import SchemaReview.Pattern.Expression
import SchemaReview.Sorting

/-!
# Constraints on JSON values

The constraints that the schemas of JSON Schemas are made of, and the search for what a value
violates. Constraints are tried in order, and a value's parts in the order of the constraint that
leads to them. A text that cannot even be judged as a regular expression breaks the search off.
-/
namespace SchemaReview.JsonSchema

inductive InstanceType where
  | array
  | boolean
  /-- Written without a fraction. -/
  | plainInteger
  /-- Without a fractional part, however it is written. -/
  | integer
  | null
  | number
  | object
  | string
deriving DecidableEq, Repr

namespace InstanceType

def text : InstanceType → String
  | .array => "array"
  | .boolean => "boolean"
  | .plainInteger => "integer"
  | .integer => "integer"
  | .null => "null"
  | .number => "number"
  | .object => "object"
  | .string => "string"

/-- Whether a value has a type. Booleans are no numbers. -/
def holds (t : InstanceType) (v : Json) : Bool :=
  match t, v with
  | .array, .arr _ => true
  | .boolean, .bool _ => true
  | .plainInteger, .int _ => true
  | .integer, .int _ => true
  | .integer, .float x => x.isInteger
  | .null, .null => true
  | .number, .int _ => true
  | .number, .float _ => true
  | .object, .obj _ => true
  | .string, .str _ => true
  | _, _ => false

end InstanceType

inductive Constraint where
  | type (names : List InstanceType)
  | oneOf (words : List String)
  | atLeastZero
  | aboveZero
  | nonEmpty
  | unique
  | pattern (text : String)
  /-- A text that is a regular expression. -/
  | regex
  /-- A member that requires another one. -/
  | requires (key other : String)
  | properties (constraints : List (String × List Constraint))
  | eachProperty (constraints : List Constraint)
  | propertyNames (constraints : List Constraint)
  | items (constraints : List Constraint)
  | anyOf (options : List (List Constraint))
  /-- All constraints on a schema. -/
  | schema

/-- Why a value violates a constraint. Values are given by their texts. -/
inductive Violation where
  | notOfType (shown : String) (names : List InstanceType)
  | notOneOf (shown : String) (words : List String)
  | belowZero (shown : String)
  | notAboveZero (shown : String)
  | empty (shown : String)
  | repeated (shown : String)
  | noMatch (shown pattern : String)
  | notRegex (shown : String)
  | requirementMissing (key other : String)
  | noOption (shown : String)
deriving DecidableEq, Repr

def quotedTexts (texts : List String) : String := ", ".intercalate (texts.map Text.quoted)

def Violation.text : Violation → String
  | .notOfType s names => s ++ " is not of type " ++ quotedTexts (names.map InstanceType.text)
  | .notOneOf s words => s ++ " is not one of [" ++ quotedTexts words ++ "]"
  | .belowZero s => s ++ " is less than the minimum of 0"
  | .notAboveZero s => s ++ " is less than or equal to the minimum of 0"
  | .empty s => s ++ " should be non-empty"
  | .repeated s => s ++ " has non-unique elements"
  | .noMatch s p => s ++ " does not match " ++ Text.quoted p
  | .notRegex s => s ++ " is not a 'regex'"
  | .requirementMissing key other =>
    Text.quoted other ++ " is a dependency of " ++ Text.quoted key
  | .noOption s => s ++ " is not valid under any of the given schemas"

/-- A violation and the place of the value within the whole. -/
structure Complaint where
  path : Path
  violation : Violation
deriving DecidableEq, Repr

mutual

/-- Equality of elements, under which booleans differ from all numbers. -/
def sameElement : Json → Json → Bool
  | .bool a, b => match b with | .bool c => a == c | _ => false
  | .arr xs, b => match b with | .arr ys => sameElements xs ys | _ => false
  | .obj xs, b =>
    match b with
    | .obj ys => xs.length == ys.length && sameMembers xs ys
    | _ => false
  | .null, b => match b with | .null => true | _ => false
  | .str s, b => match b with | .str t => s == t | _ => false
  | .int n, b =>
    match b with
    | .int m => n == m
    | .float y => y.eqInt n
    | _ => false
  | .float x, b =>
    match b with
    | .int m => x.eqInt m
    | .float y => (Json.Number.float x).same (.float y)
    | _ => false

def sameElements : List Json → List Json → Bool
  | [], ys => ys.isEmpty
  | x :: xs, ys =>
    match ys with
    | [] => false
    | y :: ys => sameElement x y && sameElements xs ys

def sameMembers : List (String × Json) → List (String × Json) → Bool
  | [], _ => true
  | (k, v) :: rest, ys =>
    match Json.member? ys k with
    | some w => sameElement v w && sameMembers rest ys
    | none => false

end

mutual

/-- Whether an element comes before another one, for those that have an order: texts, numbers and
lists of such. Inside lists booleans count as numbers. -/
def elementLt (a b : Json) : Except Unit Bool :=
  match a, b with
  | .str s, .str t => .ok (s < t)
  | .arr xs, .arr ys => elementsLt xs ys
  | a, b =>
    match a.number?, b.number? with
    | some m, some n => .ok (m.lt n)
    | _, _ => .error ()

/-- The first elements that differ decide, and a list comes before its continuations. -/
def elementsLt (xs ys : List Json) : Except Unit Bool :=
  match xs, ys with
  | [], ys => .ok !ys.isEmpty
  | _ :: _, [] => .ok false
  | x :: xs, y :: ys => if x.same y then elementsLt xs ys else elementLt x y

end

/-- The order of the elements of a list, in which booleans have no place. -/
def orderedBefore (a b : Json) : Except Unit Bool :=
  match a, b with
  | .bool _, _ => .error ()
  | _, .bool _ => .error ()
  | a, b => elementLt a b

/-- Whether two elements of a list are equal. -/
def anyEqual : List Json → Bool
  | [] => false
  | x :: xs => xs.any (sameElement x) || anyEqual xs

/-- Whether a list has a repetition. In a list that can be sorted, only neighbours are compared
after sorting it. -/
def hasRepetition (items : List Json) : Bool :=
  match Sorting.sort orderedBefore items with
  | .ok sorted => (sorted.zip sorted.tail).any fun (x, y) => sameElement x y
  | .error () => anyEqual items

/-- Whether a number is smaller than zero, or zero where that counts too. -/
def isBelowZero (orZero : Bool) : Json → Bool
  | .int n => n < 0 || (orZero && n == 0)
  | .float x => x.ltInt 0 || (orZero && x.eqInt 0)
  | _ => false

/-- Whether a text begins with a match of a pattern. -/
def startsWithMatch (pattern text : String) : Bool :=
  match Pattern.Expression.ofText pattern with
  | .ok expression => expression.matchesStart text
  | .error _ => false

/-- What a check finds: a complaint, or a fault that breaks it off. -/
abbrev Outcome := Except Pattern.Fault Complaint

/-- A violation at the value itself. -/
def complain (violates : Bool) (violation : Violation) : List Outcome :=
  if violates then [.ok ⟨[], violation⟩] else []

/-- An outcome about a part as one about the whole. -/
def Outcome.below (step : Step) (o : Outcome) : Outcome :=
  o.map fun c => { c with path := step :: c.path }

/-- The outcomes of reading a text as a regular expression. -/
def regexOutcomes (text shown : String) : List Outcome :=
  match Pattern.Expression.ofText text with
  | .ok _ => []
  | .error e => if e.fault.isSpelling then [.ok ⟨[], .notRegex shown⟩] else [.error e.fault]

/-- The outcomes about the items of a list, with positions counted from a number on. -/
def itemOutcomes (check : Json → List Outcome) : Nat → List Json → List Outcome
  | _, [] => []
  | n, x :: xs => (check x).map (Outcome.below (.index n)) ++ itemOutcomes check (n + 1) xs

/-- The outcomes about the values of an object. -/
def memberOutcomes (check : Json → List Outcome) : List (String × Json) → List Outcome
  | [] => []
  | (k, v) :: rest => (check v).map (Outcome.below (.name k)) ++ memberOutcomes check rest

mutual

/-- The outcomes of some constraints, given the check of a whole schema. -/
def outcomes (whole : Json → List Outcome) : List Constraint → Json → List Outcome
  | [], _ => []
  | c :: cs, v => c.outcomes whole v ++ outcomes whole cs v

/-- The outcomes of a constraint. -/
def Constraint.outcomes (whole : Json → List Outcome) : Constraint → Json → List Outcome
  | .type names, v => complain (!names.any (·.holds v)) (.notOfType v.shown names)
  | .oneOf words, v =>
    complain (!words.any fun w => match v with | .str s => s == w | _ => false)
      (.notOneOf v.shown words)
  | .atLeastZero, v => complain (isBelowZero false v) (.belowZero v.shown)
  | .aboveZero, v => complain (isBelowZero true v) (.notAboveZero v.shown)
  | .nonEmpty, v => complain (match v with | .arr [] => true | _ => false) (.empty v.shown)
  | .unique, v =>
    complain (match v with | .arr items => hasRepetition items | _ => false) (.repeated v.shown)
  | .pattern text, v =>
    complain (match v with | .str s => !startsWithMatch text s | _ => false) (.noMatch v.shown text)
  | .regex, v =>
    match v with
    | .str s => regexOutcomes s v.shown
    | _ => []
  | .requires key other, v =>
    complain
      (match v with
        | .obj members => Json.hasMember members key && !Json.hasMember members other
        | _ => false)
      (.requirementMissing key other)
  | .properties constraints, v =>
    match v with
    | .obj members => propertyOutcomes whole constraints members
    | _ => []
  | .eachProperty constraints, v =>
    match v with
    | .obj members => memberOutcomes (outcomes whole constraints) members
    | _ => []
  | .propertyNames constraints, v =>
    match v with
    | .obj members => members.flatMap fun m => outcomes whole constraints (.str m.1)
    | _ => []
  | .items constraints, v =>
    match v with
    | .arr items => itemOutcomes (outcomes whole constraints) 0 items
    | _ => []
  | .anyOf options, v => optionOutcomes whole options v
  | .schema, v => whole v

/-- The outcomes about the members that constraints name. -/
def propertyOutcomes (whole : Json → List Outcome) :
    List (String × List Constraint) → List (String × Json) → List Outcome
  | [], _ => []
  | (key, constraints) :: rest, members =>
    let here := match Json.member? members key with
      | some v => (outcomes whole constraints v).map (Outcome.below (.name key))
      | none => []
    here ++ propertyOutcomes whole rest members

/-- The outcome of a choice: none if an option accepts the value, unless the check of an option that
comes before it breaks off. -/
def optionOutcomes (whole : Json → List Outcome) : List (List Constraint) → Json → List Outcome
  | [], v => [.ok ⟨[], .noOption v.shown⟩]
  | option :: rest, v =>
    let found := outcomes whole option v
    match found.find? fun o => !o.isOk with
    | some fault => [fault]
    | none => if found.isEmpty then [] else optionOutcomes whole rest v

end

end SchemaReview.JsonSchema
