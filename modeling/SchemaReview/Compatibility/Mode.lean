import SchemaReview.Text.Blank
import SchemaReview.Text.Case

/-!
# Compatibility modes

A mode says in which direction data must stay readable, and whether against the latest registered
version only or against all of them.
-/
namespace SchemaReview

/-- Backward: new readers read old data. Forward: old readers read new data. -/
inductive Direction where
  | backward
  | forward
  | full
  | none
deriving DecidableEq, Repr

inductive Mode where
  | backward
  | backwardTransitive
  | forward
  | forwardTransitive
  | full
  | fullTransitive
  | none
deriving DecidableEq, Repr

namespace Mode

def text : Mode → String
  | .backward => "BACKWARD"
  | .backwardTransitive => "BACKWARD_TRANSITIVE"
  | .forward => "FORWARD"
  | .forwardTransitive => "FORWARD_TRANSITIVE"
  | .full => "FULL"
  | .fullTransitive => "FULL_TRANSITIVE"
  | .none => "NONE"

def all : List Mode :=
  [.backward, .backwardTransitive, .forward, .forwardTransitive, .full, .fullTransitive, .none]

/-- The mode that a text names, with hyphens or underscores and in any case. -/
def ofText? (s : String) : Option Mode :=
  let upper := Text.upper (Text.strip s)
  let key := String.ofList (upper.toList.map fun c => if c == '-' then '_' else c)
  all.find? fun m => m.text == key

/-- Whether all registered versions count. -/
def isTransitive : Mode → Bool
  | .backwardTransitive | .forwardTransitive | .fullTransitive => true
  | _ => false

/-- The mode that counts the latest version only. -/
def base : Mode → Mode
  | .backwardTransitive => .backward
  | .forwardTransitive => .forward
  | .fullTransitive => .full
  | m => m

def direction : Mode → Direction
  | .backward | .backwardTransitive => .backward
  | .forward | .forwardTransitive => .forward
  | .full | .fullTransitive => .full
  | .none => .none

def checksBackward (m : Mode) : Bool := m.direction == .backward || m.direction == .full

def checksForward (m : Mode) : Bool := m.direction == .forward || m.direction == .full

/-- Whether the mode checks anything. -/
def isChecking (m : Mode) : Bool := m.direction != .none

end Mode
end SchemaReview
