import SchemaReview.Pattern.Escape
import SchemaReview.Pattern.Reader
import SchemaReview.Text.Identifier
import SchemaReview.Text.Integer

/-!
# Groups

What an opening parenthesis starts: a group that is remembered by number and name, one that only
holds together, an assertion, a condition, a reference by name, flags or a comment.

Letters after a question mark turn flags on, and those after a hyphen turn flags off, for a group
or, without a group, for the whole pattern.
-/
namespace SchemaReview.Pattern

/-! ### Widths

The least and the greatest number of characters that a node takes. An assertion about the text
before looks back by the width of its body, which has to be one number, and not too large. -/

/-- Larger than every width that counts. -/
def unbounded : Nat := UInt64.size

/-- The greatest width that an assertion can look back by. -/
def farthestBack : Nat := UInt32.size - 1

/-- The least and the greatest number of characters that a node takes. -/
def Node.width (groups : List Group) : Node → Nat × Nat
  | .empty => (0, 0)
  | .literal .. => (1, 1)
  | .any _ => (1, 1)
  | .set .. => (1, 1)
  | .anchor .. => (0, 0)
  | .seq a b =>
    let (la, ha) := a.width groups
    let (lb, hb) := b.width groups
    (la + lb, ha + hb)
  | .alt a b =>
    let (la, ha) := a.width groups
    let (lb, hb) := b.width groups
    (min la lb, max ha hb)
  | .rounds least most _ body =>
    let (l, h) := body.width groups
    (l * least, h * most.getD unbounded)
  | .group _ body => body.width groups
  | .scoped body => body.width groups
  | .reference _ number =>
    match groups[number - 1]? with
    | some ⟨_, some w⟩ => w
    | _ => (0, 0)
  | .ahead .. => (0, 0)
  | .behind .. => (0, 0)
  | .atomic body => body.width groups
  | .conditional _ a b =>
    let (la, ha) := a.width groups
    let (lb, hb) := b.width groups
    (min la lb, max ha hb)

/-- Fixes how far each assertion about the text before looks back. -/
def Node.fixWidths (groups : List Group) : Node → Except PatternError Node
  | .seq a b => return .seq (← a.fixWidths groups) (← b.fixWidths groups)
  | .alt a b => return .alt (← a.fixWidths groups) (← b.fixWidths groups)
  | .rounds l m g body => return .rounds l m g (← body.fixWidths groups)
  | .group n body => return .group n (← body.fixWidths groups)
  | .scoped body => return .scoped (← body.fixWidths groups)
  | .ahead n body => return .ahead n (← body.fixWidths groups)
  | .atomic body => return .atomic (← body.fixWidths groups)
  | .conditional n a b => return .conditional n (← a.fixWidths groups) (← b.fixWidths groups)
  | .behind _ negated body => do
    let (l, h) := body.width groups
    if farthestBack < l then throw ⟨.lookbehindTooLong, none⟩
    if l = h then return .behind l negated (← body.fixWidths groups)
    else throw ⟨.variableLookbehind, none⟩
  | node => return node

open Reader

/-! ### Flags -/

def flagLetters : List Char := ['i', 'L', 'm', 's', 'x', 'a', 't', 'u']

/-- Flags with the one of a letter added. -/
def Flags.add (flags : Flags) : Char → Flags
  | 'i' => { flags with ignoreCase := true }
  | 'm' => { flags with multiline := true }
  | 's' => { flags with dotAll := true }
  | 'x' => { flags with verbose := true }
  | 'a' => { flags with ascii := true }
  | 'u' => { flags with unicode := true }
  | _ => flags

/-- Flags with the one of a letter turned on for a group. Of the two flags that say which characters
belong to a class, the new one takes the place of the other. -/
def Flags.turnOn (flags : Flags) (letter : Char) : Flags :=
  if letter == 'a' || letter == 'u' then
    { flags with ascii := false, unicode := false }.add letter
  else flags.add letter

/-- Flags with the one of a letter turned off. -/
def Flags.turnOff (flags : Flags) : Char → Flags
  | 'i' => { flags with ignoreCase := false }
  | 'm' => { flags with multiline := false }
  | 's' => { flags with dotAll := false }
  | 'x' => { flags with verbose := false }
  | _ => flags

/-- The fault at a character where a flag or one of its followers was expected. -/
def flagFault (token : List Char) (otherwise : Fault) : Fault :=
  if token.all Text.isLetter then .unknownFlag else otherwise

/-- Letters of flags to turn on, and the character that ended them. -/
def flagsOn : Nat → Char → List Char → Reader (List Char × Char)
  | 0, c, acc => return (acc, c)
  | fuel + 1, c, acc => do
    if c == 'L' then fail .localeFlag 0
    let acc := acc ++ [c]
    if (c == 'a' && acc.contains 'u') || (c == 'u' && acc.contains 'a') then
      fail .incompatibleFlags 0
    match ← next with
    | none => fail .missingFlagEnd 0
    | some token =>
      match token with
      | [d] =>
        if d == ')' || d == '-' || d == ':' then return (acc, d)
        if flagLetters.contains d then flagsOn fuel d acc
        else fail (flagFault token .missingFlagEnd) 1
      | _ => fail (flagFault token .missingFlagEnd) token.length

/-- Letters of flags to turn off, up to the colon. -/
def flagsOff : Nat → Char → List Char → Reader (List Char)
  | 0, _, acc => return acc
  | fuel + 1, c, acc => do
    if c == 'a' || c == 'u' || c == 'L' then fail .classFlagOff 0
    let acc := acc ++ [c]
    match ← next with
    | none => fail .missingColon 0
    | some token =>
      match token with
      | [':'] => return acc
      | [d] =>
        if flagLetters.contains d then flagsOff fuel d acc
        else fail (flagFault token .missingColon) 1
      | _ => fail (flagFault token .missingColon) token.length

/-- The flags of a group: those to turn on and those to turn off, or `none` after flags for the
whole pattern, which are recorded. -/
def groupFlags (c : Char) : Reader (Option (List Char × List Char)) := do
  let fuel := (← get).tokens.length + 1
  let (on, ended) ← if c == '-' then pure ([], '-') else flagsOn fuel c []
  if ended == ')' then
    modify fun s => { s with flags := on.foldl Flags.add s.flags }
    return none
  if on.contains 't' then fail .globalFlagOn 1
  let off ←
    if ended == '-' then
      match ← next with
      | none => fail .missingFlag 0
      | some token =>
        match token with
        | [d] =>
          if flagLetters.contains d then flagsOff fuel d []
          else fail (flagFault token .missingFlag) 1
        | _ => fail (flagFault token .missingFlag) token.length
    else pure []
  if off.contains 't' then fail .globalFlagOff 1
  if on.any off.contains then fail .flagOnAndOff 1
  return some (on, off)

/-! ### Openings and ends -/

/-- Opens a group and gives its number. -/
def openGroup (name : Option String) : Reader Nat := do
  let s ← get
  let number := s.groups.length + 1
  if let some n := name then
    if let some i := s.groups.findIdx? (fun g => g.name == some n) then
      fail (.redefinedGroup n number (i + 1)) (n.length + 1)
  let opened : Group := ⟨name, none⟩
  set { s with groups := s.groups ++ [opened] }
  return number

/-- Records the width of a group that ends here. -/
def closeGroup (number : Nat) (body : Node) : Reader Unit :=
  modify fun s =>
    { s with groups := s.groups.modify (number - 1) fun g =>
        { g with width := some (body.width s.groups) } }

/-- Skips a comment up to its closing parenthesis. -/
def skipComment (opened : Nat) : Nat → Reader Unit
  | 0 => return ()
  | fuel + 1 => do
    match ← next with
    | none => throw ⟨.unterminatedComment, some opened⟩
    | some [')'] => return ()
    | some _ => skipComment opened fuel

def groupNumber? (name : List Char) (groups : List Group) : Option Nat :=
  (groups.findIdx? fun g => g.name == some (String.ofList name)).map (· + 1)

/-- Larger than every number of a group. -/
def groupNumberLimit : Nat := UInt32.size / 2 - 1

/-- The group that a condition tests, by its name or its number. A number may be that of a group
which is not opened yet. -/
def conditionGroup (name : List Char) : Reader Nat := do
  let s ← get
  let text := String.ofList name
  let back := name.length + 1
  if Text.isIdentifier name then
    match groupNumber? name s.groups with
    | some n => return n
    | none => fail (.unknownGroupName text) back
  else
    match Text.integerValue? name with
    | some (.ofNat n) =>
      if n = 0 then fail .badGroupNumber back
      if groupNumberLimit ≤ n then fail (.invalidGroupReference n) back
      if !(s.tested.any fun t => t.1 == n) then
        let here ← tell
        modify fun s => { s with tested := s.tested ++ [(n, here - back)] }
      return n
    | _ => fail (.badGroupName text) back

/-- What an opening parenthesis starts. -/
inductive GroupStart where
  | capture (name : Option String)
  | plain
  | atomic
  | flagged (on off : List Char)
  | look (back negated : Bool)
  | condition (number : Nat)
  | backReference (number : Nat)
  | nothing

/-- Reads what follows an opening parenthesis. `atStart` says that flags for the whole pattern may
stand here. -/
def groupStart (opened : Nat) (atStart : Bool) : Reader GroupStart := do
  if !(← accept '?') then return .capture none
  let fuel := (← get).tokens.length + 1
  match ← next with
  | none => fail .unexpectedEnd 0
  | some ['P'] =>
    if ← accept '<' then
      let name ← takeUntil '>' .missingGroupName (.unterminatedGroupName ">") fuel []
      let text := String.ofList name
      if !Text.isIdentifier name then fail (.badGroupName text) (name.length + 1)
      return .capture (some text)
    if ← accept '=' then
      let name ← takeUntil ')' .missingGroupName (.unterminatedGroupName ")") fuel []
      let text := String.ofList name
      if !Text.isIdentifier name then fail (.badGroupName text) (name.length + 1)
      let s ← get
      match groupNumber? name s.groups with
      | none => fail (.unknownGroupName text) (name.length + 1)
      | some n =>
        match s.groups[n - 1]? with
        | some ⟨_, some _⟩ =>
          checkBehind n
          return .backReference n
        | _ => fail .openGroupReference (name.length + 1)
    match ← next with
    | none => fail .unexpectedEnd 0
    | some token =>
      fail (.unknownExtension ("P" ++ String.ofList token)) (token.length + 2)
  | some [':'] => return .plain
  | some ['#'] =>
    skipComment opened fuel
    return .nothing
  | some ['='] => return .look false false
  | some ['!'] => return .look false true
  | some ['<'] =>
    match ← next with
    | none => fail .unexpectedEnd 0
    | some ['='] => return .look true false
    | some ['!'] => return .look true true
    | some token =>
      fail (.unknownExtension ("<" ++ String.ofList token)) (token.length + 2)
  | some ['('] =>
    let name ← takeUntil ')' .missingGroupName (.unterminatedGroupName ")") fuel []
    let n ← conditionGroup name
    checkBehind n
    return .condition n
  | some ['>'] => return .atomic
  | some token =>
    match token with
    | [c] =>
      if flagLetters.contains c || c == '-' then
        match ← groupFlags c with
        | none =>
          if !atStart then throw ⟨.flagsNotAtStart, some opened⟩
          return .nothing
        | some (on, off) => return .flagged on off
      else fail (.unknownExtension (String.ofList token)) 2
    | _ => fail (.unknownExtension (String.ofList token)) (token.length + 1)

def closeOrFail (opened : Nat) : Reader Unit := do
  if !(← accept ')') then throw ⟨.unterminatedGroup, some opened⟩

end SchemaReview.Pattern
