import SchemaReview.Text.Quoted

/-!
# Texts of octets

Reading of UTF-8, with the place and the kind of the first fault, and the unification of line ends.
-/
namespace SchemaReview.Text

inductive Utf8Problem where
  | badStart
  | badContinuation
  | truncated
deriving DecidableEq, Repr

/-- The first octets of a text that are no UTF-8. -/
structure Utf8Fault where
  problem : Utf8Problem
  /-- The position of the first octet at fault. -/
  position : Nat
  /-- The octets at fault; there is at least one. -/
  octets : List UInt8
deriving DecidableEq, Repr

def Utf8Problem.text : Utf8Problem → String
  | .badStart => "invalid start byte"
  | .badContinuation => "invalid continuation byte"
  | .truncated => "unexpected end of data"

def Utf8Fault.text (f : Utf8Fault) : String :=
  let place := match f.octets with
    | [b] => "byte 0x" ++ String.ofList (hexDigits 2 b.toNat) ++ " in position " ++
        toString f.position
    | _ => "bytes in position " ++ toString f.position ++ "-" ++
        toString (f.position + f.octets.length - 1)
  "'utf-8' codec can't decode " ++ place ++ ": " ++ f.problem.text

/-- Whether an octet continues a character. -/
def isContinuation (b : UInt8) : Bool := 0x80 ≤ b && b < 0xC0

/-- Whether an octet may follow the first octet of a character. What would be too long a form, a
surrogate or beyond the last code point is excluded. -/
def mayFollow (first second : UInt8) : Bool :=
  isContinuation second &&
  !(first == 0xE0 && second < 0xA0) && !(first == 0xED && 0xA0 ≤ second) &&
  !(first == 0xF0 && second < 0x90) && !(first == 0xF4 && 0x90 ≤ second)

/-- The number of octets of a character with a given first octet. -/
def sequenceLength? (first : UInt8) : Option Nat :=
  if first < 0x80 then some 1
  else if first < 0xC2 then none
  else if first < 0xE0 then some 2
  else if first < 0xF0 then some 3
  else if first < 0xF5 then some 4
  else none

/-- The octets at the start of a character that belong together: the first one and those after it
that may follow. -/
def validRun (first : UInt8) (count : Nat) (rest : List UInt8) : List UInt8 :=
  match rest with
  | [] => [first]
  | second :: more =>
    if count < 2 || !mayFollow first second then [first]
    else first :: second :: (more.take (count - 2)).takeWhile isContinuation

/-- The code point of a complete character. -/
def codePoint (run : List UInt8) : Nat :=
  match run with
  | [] => 0
  | first :: rest =>
    let lead := match rest.length with
      | 0 => first.toNat
      | 1 => first.toNat % 32
      | 2 => first.toNat % 16
      | _ => first.toNat % 8
    rest.foldl (fun acc b => acc * 64 + b.toNat % 64) lead

/-- The characters of octets from a position on. -/
def decodeFrom (position : Nat) : Nat → List UInt8 → Except Utf8Fault (List Char)
  | 0, _ => .ok []
  | _, [] => .ok []
  | fuel + 1, first :: rest =>
    match sequenceLength? first with
    | none => .error ⟨.badStart, position, [first]⟩
    | some count =>
      let run := validRun first count rest
      if run.length = count then do
        let tail ← decodeFrom (position + count) fuel (rest.drop (count - 1))
        return Char.ofNat (codePoint run) :: tail
      else
        let problem := if run.length = rest.length + 1 then Utf8Problem.truncated else .badContinuation
        .error ⟨problem, position, run⟩

/-- The characters of a text in UTF-8. -/
def decodeUtf8 (octets : List UInt8) : Except Utf8Fault (List Char) :=
  decodeFrom 0 octets.length octets

/-- A text in which every line ends with a line feed alone. -/
def unifyLineEnds : List Char → List Char
  | [] => []
  | '\r' :: '\n' :: rest => '\n' :: unifyLineEnds rest
  | '\r' :: rest => '\n' :: unifyLineEnds rest
  | c :: rest => c :: unifyLineEnds rest

end SchemaReview.Text
