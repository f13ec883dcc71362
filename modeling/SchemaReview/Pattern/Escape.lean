import SchemaReview.Pattern.Reader
import SchemaReview.Text.CharacterName

/-!
# Escapes and bracketed sets

What a backslash with the characters after it stands for, inside a bracketed set and outside. A
number is a reference to a group unless it is octal. In a set, a closing bracket that comes first,
and a hyphen that comes last, stand for themselves.
-/
namespace SchemaReview.Pattern

open Reader

def isOctal (c : Char) : Bool := '0' ≤ c && c ≤ '7'

def isHex (c : Char) : Bool := c.isDigit || ('a' ≤ c && c ≤ 'f') || ('A' ≤ c && c ≤ 'F')

def valueIn (base : Nat) (digits : List Char) : Nat :=
  digits.foldl (fun n c =>
    base * n + (if c.isDigit then c.toNat - 48 else c.toLower.toNat - 87)) 0

/-- What an escape or a set element stands for. -/
inductive Escape where
  | code (n : Nat)
  | ofClass (cls : CharClass) (negated : Bool)
  | anchor (a : Anchor)
  | reference (number : Nat)
deriving DecidableEq, Repr

def classEscape? : Char → Option Escape
  | 'd' => some (.ofClass .digit false)
  | 'D' => some (.ofClass .digit true)
  | 's' => some (.ofClass .blank false)
  | 'S' => some (.ofClass .blank true)
  | 'w' => some (.ofClass .word false)
  | 'W' => some (.ofClass .word true)
  | _ => none

def anchorEscape? : Char → Option Escape
  | 'A' => some (.anchor .textStart)
  | 'b' => some (.anchor .boundary)
  | 'B' => some (.anchor .noBoundary)
  | 'Z' => some (.anchor .textEnd)
  | _ => none

def controlEscape? : Char → Option Char
  | 'a' => some '\x07'
  | 'b' => some '\x08'
  | 'f' => some '\x0c'
  | 'n' => some '\n'
  | 'r' => some '\r'
  | 't' => some '\t'
  | 'v' => some '\x0b'
  | '\\' => some '\\'
  | _ => none

/-- An escape with a fixed number of hexadecimal digits. -/
def hexEscape (letter : Char) (count : Nat) : Reader Escape := do
  let digits ← takeUpTo isHex count
  let escape := String.ofList ('\\' :: letter :: digits)
  if digits.length < count then fail (.incompleteEscape escape) escape.length
  let n := valueIn 16 digits
  if n < 0x110000 then return .code n else fail (.badEscape escape) escape.length

/-- An escape by the name of a character. -/
def nameEscape : Reader Escape := do
  if !(← accept '\x7b') then fail .missingBrace 0
  let fuel := (← get).tokens.length + 1
  let name ← takeUntil '\x7d' .missingCharacterName .unterminatedCharacterName fuel []
  let text := String.ofList name
  match Text.codeNamed? text with
  | some n => return .code n
  | none => fail (.undefinedCharacterName text) (name.length + 4)

def isAsciiLetter (c : Char) : Bool := c.isAlpha

/-- The escapes that sets and expressions share. -/
def plainEscape (c : Char) : Reader Escape := do
  if c == 'x' then hexEscape c 2
  else if c == 'u' then hexEscape c 4
  else if c == 'U' then hexEscape c 8
  else if c == 'N' then nameEscape
  else if isAsciiLetter c || c.isDigit then fail (.badEscape (String.ofList ['\\', c])) 2
  else return .code c.toNat

/-- An escape inside a bracketed set. -/
def setEscape (c : Char) : Reader Escape := do
  if let some d := controlEscape? c then return .code d.toNat
  if let some e := classEscape? c then return e
  if isOctal c then
    let digits := c :: (← takeUpTo isOctal 2)
    let n := valueIn 8 digits
    if n > 255 then
      let escape := String.ofList ('\\' :: digits)
      fail (.octalOutOfRange escape) escape.length
    return .code n
  plainEscape c

/-- Checks that a group may be referred to from where the reader stands. -/
def checkBehind (number : Nat) : Reader Unit := do
  let s ← get
  if let some since := s.behindFrom then
    let closed := match s.groups[number - 1]? with
      | some g => g.width.isSome
      | none => false
    if !closed then fail .openGroupReference 0
    if since ≤ number then fail .sameLookbehindReference 0

/-- A reference to a group by its number. -/
def numberedReference (digits : List Char) : Reader Escape := do
  let number := valueIn 10 digits
  let s ← get
  if number ≤ s.groups.length then
    match s.groups[number - 1]? with
    | some ⟨_, some _⟩ =>
      checkBehind number
      return .reference number
    | _ => fail .openGroupReference (digits.length + 1)
  else fail (.invalidGroupReference number) digits.length

/-- An escape outside of sets. -/
def expressionEscape (c : Char) : Reader Escape := do
  if let some e := anchorEscape? c then return e
  if let some e := classEscape? c then return e
  if let some d := controlEscape? c then return .code d.toNat
  if c == '0' then
    let digits := c :: (← takeUpTo isOctal 2)
    return .code (valueIn 8 digits)
  if c.isDigit then
    let second ← takeUpTo Char.isDigit 1
    let two := c :: second
    let third ← if second.length = 1 ∧ two.all isOctal then takeUpTo isOctal 1 else pure []
    if third.isEmpty then numberedReference two
    else
      let digits := two ++ third
      let n := valueIn 8 digits
      if n > 255 then
        let escape := String.ofList ('\\' :: digits)
        fail (.octalOutOfRange escape) escape.length
      else return .code n
  else plainEscape c

def Escape.toSetItem : Escape → SetItem
  | .code n => .single n
  | .ofClass cls negated => .ofClass cls negated
  | _ => .single 0

/-! ### Sets -/

/-- What one token stands for inside a set. -/
def setElement (token : List Char) : Reader Escape :=
  match token with
  | ['\\', c] => setEscape c
  | c :: _ => return .code c.toNat
  | [] => return .code 0

/-- The elements of a set up to its closing bracket. `opened` is the place of the opening one. -/
def setItems (opened : Nat) : Nat → List SetItem → Reader (List SetItem)
  | 0, acc => return acc
  | fuel + 1, acc => do
    match ← next with
    | none => throw ⟨.unterminatedSet, some opened⟩
    | some token =>
      if token = [']'] ∧ !acc.isEmpty then return acc
      let first ← setElement token
      if ← accept '-' then
        match ← next with
        | none => throw ⟨.unterminatedSet, some opened⟩
        | some that =>
          if that = [']'] then return acc ++ [first.toSetItem, .single '-'.toNat]
          let second ← setElement that
          let bad := Fault.badRange (String.ofList token) (String.ofList that)
          let back := token.length + 1 + that.length
          match first, second with
          | .code lo, .code hi =>
            if hi < lo then fail bad back
            setItems opened fuel (acc ++ [.range lo hi])
          | _, _ => fail bad back
      else setItems opened fuel (acc ++ [first.toSetItem])

/-- The node of a set. A single code point is a literal. -/
def setNode (flags : Flags) (negated : Bool) (items : List SetItem) : Node :=
  match items.eraseDups with
  | [.single n] => .literal flags negated n
  | items => .set flags negated items

end SchemaReview.Pattern
