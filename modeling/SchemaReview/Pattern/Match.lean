import SchemaReview.Pattern.Character

/-!
# Matching

A pattern is run as a list of frames, what is still to be matched, from a position of the subject.
Choices are tried in order; the first that lets everything after it match is taken. The positions at
which groups open and close are marks. A choice that fails puts the marks back: inside a repetition
all of them, elsewhere only those that are new, so that the marks of groups that were open before
may stay where the failed choice moved them. A repetition starts no further round where its last
round began, but a round that took nothing counts.
-/
namespace SchemaReview.Pattern

/-- The positions at which groups were opened and closed, two for each group, as far as any is
set. -/
abbrev Marks := List (Option Nat)

namespace Marks

/-- The marks with one set. -/
def put (marks : Marks) (index position : Nat) : Marks :=
  if index < marks.length then marks.set index (some position)
  else marks ++ List.replicate (index - marks.length) none ++ [some position]

/-- Where a group opens and where it closes. -/
def openIndex (number : Nat) : Nat := 2 * (number - 1)

def closeIndex (number : Nat) : Nat := 2 * (number - 1) + 1

/-- The span of a group, if both its marks are set in order. -/
def span? (marks : Marks) (number : Nat) : Option (Nat × Nat) :=
  match marks[openIndex number]?, marks[closeIndex number]? with
  | some (some first), some (some last) => if first ≤ last then some (first, last) else none
  | _, _ => none

/-- Whether no group closes before it opens. -/
def areInOrder : Marks → Bool
  | some first :: some last :: rest => first ≤ last && areInOrder rest
  | _ :: _ :: rest => areInOrder rest
  | _ => true

end Marks

/-- The search for a match: the position where it ends, if there is one, and the marks that are
left. -/
abbrev Attempt := StateM Marks (Option Nat)

/-- Puts marks back after a choice has failed. -/
def putBack (inside : Bool) (saved : Marks) : StateM Marks Unit :=
  modify fun marks => if inside then saved else marks.take saved.length

/-- The first position from which an attempt succeeds. -/
def firstSuccess (inside : Bool) (saved : Marks) (attempt : Nat → Attempt) : List Nat → Attempt
  | [] => return none
  | p :: rest => do
    match ← attempt p with
    | some q => return some q
    | none =>
      putBack inside saved
      firstSuccess inside saved attempt rest

/-- Whether one more round is allowed after so many. -/
def allowsRound (most : Option Nat) (done : Nat) : Bool :=
  match most with
  | some m => done < m
  | none => true

/-- Rounds of a body, each of which is kept, up to the first one that fails. -/
def keepRounds (body : Nat → Attempt) (least : Nat) (most : Option Nat) :
    Nat → Nat → Option Nat → Nat → Attempt
  | 0, _, _, p => return some p
  | fuel + 1, done, last, p => do
    if done < least then
      match ← body p with
      | some q => keepRounds body least most fuel (done + 1) last q
      | none => return none
    else if allowsRound most done && last != some p then
      let saved ← get
      match ← body p with
      | some q => keepRounds body least most fuel (done + 1) (some p) q
      | none =>
        set saved
        return some p
    else return some p

/-- A repetition that is under way. -/
structure Loop where
  least : Nat
  most : Option Nat
  isLazy : Bool
  body : Node
  /-- Whether it stands inside another repetition. -/
  inside : Bool
deriving Repr

/-- Something that is still to be matched. -/
inductive Frame where
  | node (n : Node)
  /-- The end of a group. -/
  | close (number : Nat)
  /-- The end of a round, after a number of rounds, with the place where the last one began. -/
  | round (loop : Loop) (done : Nat) (last : Option Nat)
deriving Repr

/-- Whether an anchor holds at a position of the subject. -/
def anchorHolds (flags : Flags) (subject : Array Char) (position : Nat) : Anchor → Bool
  | .lineStart =>
    position == 0 || (flags.multiline && subject[position - 1]? == some '\n')
  | .lineEnd =>
    position == subject.size ||
    (subject[position]? == some '\n' && (flags.multiline || position + 1 == subject.size))
  | .textStart => position == 0
  | .textEnd => position == subject.size
  | .boundary => subject.size != 0 && wordBefore != wordAt position
  | .noBoundary => subject.size != 0 && wordBefore == wordAt position
where
  wordAt (i : Nat) : Bool :=
    match subject[i]? with
    | some c => CharClass.word.contains flags.ascii c
    | none => false
  wordBefore : Bool := position != 0 && wordAt (position - 1)

/-- The number of characters from a position on that a unit takes one after another. -/
def unitRun (subject : Array Char) (holds : Char → Bool) (position : Nat) : Nat :=
  ((subject.toList.drop position).takeWhile holds).length

/-- The position after a repetition of the text of a span, if it stands at a position. -/
def afterCopy? (subject : Array Char) (flags : Flags) (span : Nat × Nat) (position : Nat) :
    Option Nat :=
  let word := (subject.extract span.1 span.2).toList
  let here := (subject.extract position (position + word.length)).toList
  if here.length = word.length ∧ (word.zip here).all (fun (c, d) => sameChar flags c d) then
    some (position + word.length)
  else none

/-- The positions from which a repetition of a unit is left, the preferred one first. -/
def unitEnds (greed : Greed) (least reach position : Nat) : List Nat :=
  let ends := (List.range (reach + 1 - least)).map (position + least + ·)
  match greed with
  | .greedy => ends.reverse
  | .lazy => ends
  | .possessive => ends.reverse.take 1

/-- The search for a match of some frames from a position, inside a repetition or not. -/
def run (subject : Array Char) : Nat → List Frame → Bool → Nat → Attempt
  | 0, _, _, _ => return none
  | _ + 1, [], _, p => return some p
  | fuel + 1, .close number :: rest, inside, p => do
    modify (Marks.put · (Marks.closeIndex number) p)
    run subject fuel rest inside p
  | fuel + 1, .round loop done last :: rest, _, p => do
    let another (last : Option Nat) : Attempt :=
      run subject fuel (.node loop.body :: .round loop (done + 1) last :: rest) true p
    if done < loop.least then another last
    else
      let mayGoOn := allowsRound loop.most done && last != some p
      let saved ← get
      if loop.isLazy then
        match ← run subject fuel rest loop.inside p with
        | some q => return some q
        | none =>
          putBack loop.inside saved
          if mayGoOn then another (some p) else return none
      else if mayGoOn then
        match ← another (some p) with
        | some q => return some q
        | none =>
          set saved
          run subject fuel rest loop.inside p
      else run subject fuel rest loop.inside p
  | fuel + 1, .node n :: rest, inside, p => do
    let alone (body : Node) (q : Nat) : Attempt := run subject fuel [.node body] inside q
    let goOn (q : Nat) : Attempt := run subject fuel rest inside q
    match n with
    | .empty => goOn p
    | .literal .. | .any _ | .set .. =>
      if holdsAt n.unitHolds p then goOn (p + 1) else return none
    | .anchor flags a => if anchorHolds flags subject p a then goOn p else return none
    | .seq first second => run subject fuel (.node first :: .node second :: rest) inside p
    | .scoped body => run subject fuel (.node body :: rest) inside p
    | .alt first second =>
      let saved ← get
      match ← run subject fuel (.node first :: rest) inside p with
      | some q => return some q
      | none =>
        putBack inside saved
        match ← run subject fuel (.node second :: rest) inside p with
        | some q => return some q
        | none =>
          putBack inside saved
          return none
    | .group number body =>
      modify (Marks.put · (Marks.openIndex number) p)
      run subject fuel (.node body :: .close number :: rest) inside p
    | .rounds least most greed body =>
      if body.isUnit then
        let taken := unitRun subject body.unitHolds p
        let reach := match most with | some m => min m taken | none => taken
        match greed with
        | .possessive => if reach < least then return none else goOn (p + reach)
        | _ => firstSuccess inside (← get) goOn (unitEnds greed least reach p)
      else
        if greed == .possessive then
          let limit := least + (subject.size - p) + 2
          match ← keepRounds (alone body) least most limit 0 none p with
          | some q => goOn q
          | none => return none
        else
          let loop : Loop := ⟨least, most, greed == .lazy, body, inside⟩
          run subject fuel (.round loop 0 none :: rest) true p
    | .reference flags number =>
      match (← get).span? number with
      | none => return none
      | some span =>
        match afterCopy? subject flags span p with
        | some q => goOn q
        | none => return none
    | .ahead false body =>
      match ← alone body p with
      | some _ => goOn p
      | none => return none
    | .ahead true body =>
      let saved ← get
      match ← alone body p with
      | some _ => return none
      | none =>
        putBack inside saved
        goOn p
    | .behind width false body =>
      if p < width then return none
      else
        match ← alone body (p - width) with
        | some _ => goOn p
        | none => return none
    | .behind width true body =>
      if p < width then goOn p
      else
        let saved ← get
        match ← alone body (p - width) with
        | some _ => return none
        | none =>
          putBack inside saved
          goOn p
    | .atomic body =>
      match ← alone body p with
      | some q => goOn q
      | none => return none
    | .conditional number present absent =>
      if ((← get).span? number).isSome then
        run subject fuel (.node present :: rest) inside p
      else run subject fuel (.node absent :: rest) inside p
where
  holdsAt (test : Char → Bool) (position : Nat) : Bool :=
    match subject[position]? with
    | some c => test c
    | none => false

namespace Node

/-- The number of frames that a path through a node can pass in a subject with so many
characters. -/
def frames (size : Nat) : Node → Nat
  | .seq a b => a.frames size + b.frames size + 1
  | .alt a b => a.frames size + b.frames size + 1
  | .rounds least _ _ body => (least + size + 2) * (body.frames size + 1) + 2
  | .group _ body => body.frames size + 2
  | .scoped body => body.frames size + 1
  | .ahead _ body => body.frames size + 2
  | .behind _ _ body => body.frames size + 2
  | .atomic body => body.frames size + 2
  | .conditional _ a b => a.frames size + b.frames size + 1
  | _ => 1

/-- The marks that a match at the start of a subject leaves, if there is one. -/
def marksAtStart? (node : Node) (subject : Array Char) : Option Marks :=
  let (found, marks) := run subject (node.frames subject.size + 1) [.node node] false 0 []
  found.map fun _ => marks

end Node
end SchemaReview.Pattern
