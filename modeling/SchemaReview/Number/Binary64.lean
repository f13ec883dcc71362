/-!
# Double-precision numbers

A value of the binary64 format, kept as its fields: a sign, a biased exponent and a fraction.
Every value has one representation, so equality of representations is equality of values, the two
zeros apart. All arithmetic is exact arithmetic on `Nat` and `Int`: reading a decimal rounds the
exact quotient to the nearest value, a half to the even one.
-/
namespace SchemaReview

inductive Binary64 where
  | nan
  | infinity (negative : Bool)
  | finite (negative : Bool) (exponent : Fin 2047) (fraction : Fin 4503599627370496)
deriving DecidableEq, Repr

namespace Binary64

/-- The first significand of a normal number: two to the power 52. -/
def hiddenBit : Nat := 4503599627370496

/-- The integer that a finite value multiplies with a power of two. -/
def significand (exponent : Fin 2047) (fraction : Fin 4503599627370496) : Nat :=
  if exponent.val = 0 then fraction.val else hiddenBit + fraction.val

/-- The power of two that a finite value multiplies its significand with. -/
def scale (exponent : Fin 2047) : Int :=
  (max exponent.val 1 : Nat) - 1075

def zero (negative : Bool) : Binary64 := finite negative 0 0

/-- The finite value `significand · 2 ^ scale`, for a significand below `2 ^ 53` that is normal
unless the scale is the least one; infinity when the scale is too large. -/
def ofParts (negative : Bool) (significand : Nat) (scale : Int) : Binary64 :=
  if significand < hiddenBit then
    finite negative 0 (Fin.ofNat 4503599627370496 significand)
  else
    let biased := (scale + 1075).toNat
    if h : biased < 2047 then
      finite negative ⟨biased, h⟩ (Fin.ofNat 4503599627370496 (significand - hiddenBit))
    else
      infinity negative

/-- The exponent of the largest power of two that is at most `num / den`. -/
def floorLog2 (num den : Nat) : Int :=
  let guess : Int := (Nat.log2 num : Int) - Nat.log2 den
  let atLeast : Bool :=
    if 0 ≤ guess then den <<< guess.toNat ≤ num else den ≤ num <<< (-guess).toNat
  if atLeast then guess else guess - 1

/-- `num / den` rounded to an integer, a half to the even neighbour. -/
def roundHalfEven (num den : Nat) : Nat :=
  let q := num / den
  let twice := 2 * (num % den)
  if twice < den then q
  else if den < twice then q + 1
  else if q % 2 = 0 then q else q + 1

/-- The value nearest to the quotient `num / den`. -/
def ofRatio (negative : Bool) (num den : Nat) : Binary64 :=
  if num = 0 then zero negative
  else
    let s : Int := max (floorLog2 num den - 52) (-1074)
    let m :=
      if 0 ≤ s then roundHalfEven num (den <<< s.toNat)
      else roundHalfEven (num <<< (-s).toNat) den
    if m = 2 * hiddenBit then ofParts negative hiddenBit (s + 1) else ofParts negative m s

/-- How many decimal digits a number is written with. -/
def digitCount (n : Nat) : Nat := (Nat.toDigits 10 n).length

/-- The value nearest to `digits · 10 ^ exponent`. Exponents out of reach are answered without
computing the power. -/
def ofDecimal (negative : Bool) (digits : Nat) (exponent : Int) : Binary64 :=
  if digits = 0 then zero negative
  else
    let magnitude := exponent + digitCount digits
    if magnitude > 310 then infinity negative
    else if magnitude < -330 then zero negative
    else if 0 ≤ exponent then ofRatio negative (digits * Nat.pow 10 exponent.toNat) 1
    else ofRatio negative digits (Nat.pow 10 (-exponent).toNat)

/-- The exact quotient of a finite value, with its sign in the numerator. -/
def ratio? : Binary64 → Option (Int × Nat)
  | finite negative e f =>
    let m := significand e f
    let s := scale e
    let num : Nat := if 0 ≤ s then m <<< s.toNat else m
    let den : Nat := if 0 ≤ s then 1 else 1 <<< (-s).toNat
    some (if negative then -(num : Int) else num, den)
  | _ => none

/-- Whether the value is a whole number. -/
def isInteger (x : Binary64) : Bool :=
  match x.ratio? with
  | some (num, den) => num % den == 0
  | none => false

/-- The value without its fractional part, for finite values. -/
def truncate? (x : Binary64) : Option Int :=
  x.ratio?.map fun (num, den) => Int.tdiv num den

/-- Whether the value is smaller than an integer. -/
def ltInt (x : Binary64) (n : Int) : Bool :=
  match x with
  | nan => false
  | infinity negative => negative
  | finite .. =>
    match x.ratio? with
    | some (num, den) => num < n * den
    | none => false

/-- Whether the value is larger than an integer. -/
def gtInt (x : Binary64) (n : Int) : Bool :=
  match x with
  | nan => false
  | infinity negative => !negative
  | finite .. =>
    match x.ratio? with
    | some (num, den) => n * den < num
    | none => false

/-- Whether the value is smaller than another one. -/
def lt (x y : Binary64) : Bool :=
  match x, y with
  | nan, _ => false
  | _, nan => false
  | infinity s, infinity t => s && !t
  | infinity s, _ => s
  | _, infinity t => !t
  | _, _ =>
    match x.ratio?, y.ratio? with
    | some (a, b), some (c, d) => a * d < c * b
    | _, _ => false

/-- Whether the value is exactly an integer. -/
def eqInt (x : Binary64) (n : Int) : Bool :=
  match x.ratio? with
  | some (num, den) => num == n * den
  | none => false

/-- Numeric equality: not a number differs from everything, and the two zeros are equal. -/
def numEq : Binary64 → Binary64 → Bool
  | nan, _ => false
  | _, nan => false
  | x, y => x == y || (x.eqInt 0 && y.eqInt 0)

/-- Whether the value differs from zero. -/
def isNonzero (x : Binary64) : Bool := !x.eqInt 0

/-! ### Sums and products

They are computed exactly and rounded once. -/

def isNegative : Binary64 → Bool
  | nan => false
  | infinity negative => negative
  | finite negative _ _ => negative

def neg : Binary64 → Binary64
  | nan => nan
  | infinity negative => infinity !negative
  | finite negative e f => finite (!negative) e f

/-- The value nearest to an integer. -/
def ofInt (n : Int) : Binary64 := ofRatio (n < 0) n.natAbs 1

/-- The value nearest to a quotient with its sign in the numerator; a zero gets a given sign. -/
def ofSignedRatio (num : Int) (den : Nat) (zeroSign : Bool) : Binary64 :=
  ofRatio (if num = 0 then zeroSign else num < 0) num.natAbs den

def add (x y : Binary64) : Binary64 :=
  match x, y with
  | nan, _ => nan
  | _, nan => nan
  | infinity s, infinity t => if s = t then infinity s else nan
  | infinity s, _ => infinity s
  | _, infinity t => infinity t
  | _, _ =>
    match x.ratio?, y.ratio? with
    | some (a, b), some (c, d) =>
      ofSignedRatio (a * d + c * b) (b * d) (x.isNegative && y.isNegative)
    | _, _ => nan

def mul (x y : Binary64) : Binary64 :=
  let negative := x.isNegative != y.isNegative
  match x.ratio?, y.ratio? with
  | some (a, b), some (c, d) => ofSignedRatio (a * c) (b * d) negative
  | _, _ =>
    if x == nan || y == nan || x.eqInt 0 || y.eqInt 0 then nan else infinity negative

end Binary64
end SchemaReview
