import SchemaReview.Pattern.Basic
import SchemaReview.Pattern.Group

/-!
# Reading a pattern

Alternatives of sequences of items, each with the repetition mark that follows it. The steps take
fuel computed from the number of tokens, which is always enough: every round of a loop consumes one.

Nodes with which all alternatives begin are matched once, before the choice. A choice between single
characters is a set, so that a repetition of it takes one character after another.
-/
namespace SchemaReview.Pattern

open Reader

/-! ### Sequences and alternatives -/

/-- The nodes of a sequence in order, as one node. -/
def sequence : List Node → Node
  | [] => .empty
  | [n] => n
  | n :: rest => .seq n (sequence rest)

/-- Whether a node that begins several alternatives can be matched before the choice between
them. -/
def Node.isShared : Node → Bool
  | .literal .. => true
  | .any _ => true
  | .set .. => true
  | .anchor .. => true
  | .reference .. => true
  | _ => false

/-- The nodes with which an alternative and some others all begin, and what is left of each. -/
def sharedStart : List Node → List (List Node) → List Node × List (List Node)
  | [], others => ([], [] :: others)
  | n :: rest, others =>
    if n.isShared && others.all fun o => o.head? == some n then
      let (start, left) := sharedStart rest (others.map List.tail)
      (n :: start, left)
    else ([], (n :: rest) :: others)

/-- The elements of a set that stands for the same characters as an alternative. -/
def alternativeItems? : List Node → Option (List SetItem)
  | [.literal _ false code] => some [.single code]
  | [.set _ false items] => some items
  | _ => none

/-- A choice between alternatives, the first of which is preferred. -/
def choose : List (List Node) → Node
  | [] => .empty
  | [nodes] => sequence nodes
  | nodes :: rest => .alt (sequence nodes) (choose rest)

/-- The nodes that alternatives make up together. -/
def alternatives (flags : Flags) : List (List Node) → List Node
  | [] => []
  | [nodes] => nodes
  | first :: others =>
    let (start, left) := sharedStart first others
    match left.mapM alternativeItems? with
    | some items => start ++ [.set flags false items.flatten.eraseDups]
    | none => start ++ [choose left]

/-! ### Items and what they make up -/

/-- An item of a sequence, and what a repetition mark after it would mean. -/
inductive Item where
  | single (node : Node)
  | anchored (node : Node)
  | repeated (node : Node)
  /-- The nodes of a group that is not remembered and has no flags. Unless they are repeated, they
  belong to the sequence around the group. -/
  | plain (nodes : List Node)

def Item.nodes : Item → List Node
  | .single n => [n]
  | .anchored n => [n]
  | .repeated n => [n]
  | .plain ns => ns

/-- Larger than every number of rounds that can be asked for. -/
def roundLimit : Nat := UInt32.size - 1

/-- The number of rounds that a repetition mark asks for; `none` if a brace does not start one. -/
def roundLimits (mark : Char) : Reader (Option (Nat × Option Nat)) := do
  if mark == '?' then return some (0, some 1)
  if mark == '*' then return some (0, none)
  if mark == '+' then return some (1, none)
  if (← peek) = some ['\x7d'] then return none
  let start ← get
  let here ← tell
  let fuel := start.tokens.length
  let lo ← takeUpTo Char.isDigit fuel
  let hi ← if ← accept ',' then takeUpTo Char.isDigit fuel else pure lo
  if !(← accept '\x7d') then
    setTokens start.tokens
    return none
  let least := valueIn 10 lo
  let most := if hi.isEmpty then none else some (valueIn 10 hi)
  if roundLimit ≤ least || roundLimit ≤ most.getD 0 then throw ⟨.tooManyRounds, none⟩
  if most.any (· < least) then fail .leastAboveMost ((← tell) - here)
  return some (least, most)

/-- The mark after a repetition that says how it chooses. -/
def greedMark : Reader Greed := do
  if ← accept '?' then return .lazy
  if ← accept '+' then return .possessive
  return .greedy

/-- Skips the rest of a line. -/
def skipLine : Nat → Reader Unit
  | 0 => return ()
  | fuel + 1 => do
    match ← next with
    | none => return ()
    | some ['\n'] => return ()
    | some _ => skipLine fuel

mutual

/-- The alternatives separated by bars. At the top level the flags of the whole pattern are read
again for each. -/
def alternativesOf : Nat → Flags → Bool → Bool → Reader (List (List Node))
  | 0, _, _, _ => return []
  | fuel + 1, flags, top, first => do
    let nodes ← sequenceOf fuel flags top first []
    if ← accept '|' then
      let s ← get
      let flags := if top then s.flags else flags
      return nodes :: (← alternativesOf fuel flags top false)
    else return [nodes]

/-- What stands in a group up to its closing parenthesis, which is consumed. `opened` is the place
of the opening one. -/
def groupBody : Nat → Flags → Nat → Reader (List Node)
  | 0, _, _ => return []
  | fuel + 1, flags, opened => do
    let nodes := alternatives flags (← alternativesOf fuel flags false false)
    closeOrFail opened
    return nodes

/-- The nodes up to a bar, a closing parenthesis or the end, after the items read before. -/
def sequenceOf : Nat → Flags → Bool → Bool → List Item → Reader (List Node)
  | 0, _, _, _, items => return items.flatMap Item.nodes
  | fuel + 1, flags, top, first, items => do
    match ← peek with
    | none => return items.flatMap Item.nodes
    | some token =>
      if token = ['|'] ∨ token = [')'] then return items.flatMap Item.nodes
      let here ← tell
      let _ ← next
      let continueWith (item : Item) : Reader (List Node) :=
        sequenceOf fuel flags top first (items ++ [item])
      match token with
      | ['\\', c] =>
        match ← expressionEscape c with
        | .code n => continueWith (.single (.literal flags false n))
        | .ofClass cls negated => continueWith (.single (.set flags false [.ofClass cls negated]))
        | .anchor a => continueWith (.anchored (.anchor flags a))
        | .reference n => continueWith (.single (.reference flags n))
      | [c] =>
        if flags.verbose && (c == ' ' || (9 ≤ c.toNat && c.toNat ≤ 13)) then
          sequenceOf fuel flags top first items
        else if flags.verbose && c == '#' then
          skipLine (fuel + 1)
          sequenceOf fuel flags top first items
        else if c == '[' then
          let negated ← accept '^'
          let set ← setItems here (fuel + 1) []
          continueWith (.single (setNode flags negated set))
        else if c == '?' || c == '*' || c == '+' || c == '\x7b' then
          match ← roundLimits c with
          | none => continueWith (.single (.literal flags false c.toNat))
          | some (least, most) =>
            let body ← match items.getLast? with
              | none => throw ⟨.nothingToRepeat, some here⟩
              | some (.anchored _) => throw ⟨.nothingToRepeat, some here⟩
              | some (.repeated _) => throw ⟨.multipleRepeat, some here⟩
              | some (.single node) => pure node
              | some (.plain nodes) => pure (sequence nodes)
            let greed ← greedMark
            sequenceOf fuel flags top first
              (items.dropLast ++ [.repeated (.rounds least most greed body)])
        else if c == '.' then continueWith (.single (.any flags))
        else if c == '(' then
          match ← groupStart here (first && items.isEmpty) with
          | .nothing =>
            let s ← get
            let flags := if top then s.flags else flags
            sequenceOf fuel flags top first items
          | .backReference n => continueWith (.single (.reference flags n))
          | .look back negated =>
            let outer := (← get).behindFrom
            if back && outer.isNone then
              modify fun s => { s with behindFrom := some (s.groups.length + 1) }
            let body := sequence (← groupBody fuel flags here)
            if back then modify fun s => { s with behindFrom := outer }
            continueWith (.single (if back then .behind 0 negated body else .ahead negated body))
          | .condition n =>
            let present ← sequenceOf fuel flags false false []
            let absent ←
              if ← accept '|' then
                let nodes ← sequenceOf fuel flags false false []
                if (← peek) = some ['|'] then fail .tooManyBranches 0
                pure nodes
              else pure []
            closeOrFail here
            continueWith (.single (.conditional n (sequence present) (sequence absent)))
          | .capture name =>
            let number ← openGroup name
            let body := sequence (← groupBody fuel flags here)
            closeGroup number body
            continueWith (.single (.group number body))
          | .plain => continueWith (.plain (← groupBody fuel flags here))
          | .atomic => continueWith (.single (.atomic (sequence (← groupBody fuel flags here))))
          | .flagged on off =>
            let inner := off.foldl Flags.turnOff (on.foldl Flags.turnOn flags)
            continueWith (.single (.scoped (sequence (← groupBody fuel inner here))))
        else if c == '^' then continueWith (.anchored (.anchor flags .lineStart))
        else if c == '$' then continueWith (.anchored (.anchor flags .lineEnd))
        else continueWith (.single (.literal flags false c.toNat))
      | _ => sequenceOf fuel flags top first items

end

/-- Reads the whole pattern: its node, and the groups that it opens. -/
def wholePattern (fuel : Nat) : Reader (Node × List Group) := do
  setTokens (← get).tokens
  let parts ← alternativesOf fuel {} true true
  let s ← get
  if s.flags.ascii && s.flags.unicode then throw ⟨.asciiWithUnicode, none⟩
  if (← peek).isSome then fail .unbalanced 0
  match s.tested.find? fun t => s.groups.length < t.1 with
  | some (n, p) => throw ⟨.invalidGroupReference n, some p⟩
  | none => return (← (sequence (alternatives s.flags parts)).fixWidths s.groups, s.groups)

end SchemaReview.Pattern
