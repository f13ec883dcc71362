/-!
# Base 64

Four characters stand for three octets. Characters outside of the alphabet are passed over, and
nothing after a complete padding is read.
-/
namespace SchemaReview.Text

/-- The value of a character of the alphabet. -/
def base64Value? (c : Char) : Option Nat :=
  if 'A' ≤ c ∧ c ≤ 'Z' then some (c.toNat - 'A'.toNat)
  else if 'a' ≤ c ∧ c ≤ 'z' then some (c.toNat - 'a'.toNat + 26)
  else if '0' ≤ c ∧ c ≤ '9' then some (c.toNat - '0'.toNat + 52)
  else if c == '+' then some 62
  else if c == '/' then some 63
  else none

/-- The octets of a text. `held` are the values of the unfinished group of four, the last one first,
and `pads` counts the padding characters since the last value. -/
def base64From (held : List Nat) (pads : Nat) : List Char → Option (List UInt8)
  | [] => if held.isEmpty then some [] else none
  | c :: rest =>
    if c == '=' then
      if 2 ≤ held.length then
        if 4 ≤ held.length + pads + 1 then some [] else base64From held (pads + 1) rest
      else base64From held pads rest
    else
      match base64Value? c with
      | none => base64From held pads rest
      | some v =>
        match held with
        | [] => base64From [v] 0 rest
        | [a] => (base64From [v, a] 0 rest).map ((a * 4 + v / 16).toUInt8 :: ·)
        | [b, a] => (base64From [v, b, a] 0 rest).map ((b * 16 + v / 4).toUInt8 :: ·)
        | b :: _ => (base64From [] 0 rest).map ((b * 64 + v).toUInt8 :: ·)

/-- The octets that a text stands for, if its last group is complete. -/
def decodeBase64 (s : List Char) : Option (List UInt8) := base64From [] 0 s

end SchemaReview.Text
