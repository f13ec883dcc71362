import SchemaReview.Number.Binary64

/-!
# Shortest decimal text of a double-precision number

The digits written are the fewest that read back as the same value; of two neighbours with equally
many digits the nearer one is taken, and of two equally near ones the even one. Magnitudes from
`1e-04` up to, but not including, `1e+16` are written positionally with at least one digit after
the point.
-/
namespace SchemaReview.Binary64

/-- The decimal digits `coefficient · 10 ^ exponent` of a positive value. -/
structure Digits where
  coefficient : Nat
  exponent : Int
deriving DecidableEq, Repr

/-- The count of digits before the decimal point of `num / den`; zero or negative when the
quotient starts with zeros after the point. -/
def pointPosition (num den : Nat) : Int :=
  (digitCount (num * Nat.pow 10 400 / den) : Int) - 400

/-- The grid points with `count` digits next to `num / den`, the nearer one first. -/
def neighbours (num den count : Nat) : List Digits :=
  let exponent : Int := pointPosition num den - count
  let (n, d) :=
    if 0 ≤ exponent then (num, den * Nat.pow 10 exponent.toNat)
    else (num * Nat.pow 10 (-exponent).toNat, den)
  let below := n / d
  let nearest := roundHalfEven n d
  let other := if nearest = below then below + 1 else below
  [⟨nearest, exponent⟩, ⟨other, exponent⟩]

/-- The digits, without trailing zeros. -/
def Digits.trim (d : Digits) : Digits :=
  go (digitCount d.coefficient) d
where
  go : Nat → Digits → Digits
    | 0, d => d
    | fuel + 1, d =>
      if d.coefficient % 10 = 0 ∧ d.coefficient ≠ 0 then
        go fuel ⟨d.coefficient / 10, d.exponent + 1⟩
      else d

/-- All digits of `num / den`, whose denominator is a power of two. -/
def exactDigits (num den : Nat) : Digits := ⟨num * Nat.pow 5 den.log2, -(den.log2 : Int)⟩

/-- The fewest digits whose value is `x`. Seventeen are always enough; all digits would do too. -/
def shortestDigits (x : Binary64) (num den : Nat) : Digits :=
  let candidates := (List.range 17).flatMap fun k => neighbours num den (k + 1)
  let exact := candidates.find? fun d => ofDecimal false d.coefficient d.exponent == x
  (exact.getD (exactDigits num den)).trim

/-- An exponent with its sign and at least two digits. -/
def exponentText (e : Int) : String :=
  let digits := toString e.natAbs
  let padded := if digits.length < 2 then "0" ++ digits else digits
  (if e < 0 then "e-" else "e+") ++ padded

/-- Digits laid out positionally from `1e-04` up to below `1e+16`, with an exponent otherwise. -/
def layout (d : Digits) : String :=
  let digits := Nat.toDigits 10 d.coefficient
  let count := digits.length
  let point : Int := d.exponent + count
  if -4 < point ∧ point ≤ 16 then
    if point ≤ 0 then
      "0." ++ String.ofList (List.replicate (-point).toNat '0' ++ digits)
    else if point.toNat < count then
      String.ofList (digits.take point.toNat) ++ "." ++ String.ofList (digits.drop point.toNat)
    else
      String.ofList (digits ++ List.replicate (point.toNat - count) '0') ++ ".0"
  else
    let fraction := digits.drop 1
    String.ofList (digits.take 1) ++
      (if fraction.isEmpty then "" else "." ++ String.ofList fraction) ++ exponentText (point - 1)

/-- The text of a value: `1.0`, `1e+16`, `-0.0`, `inf`, `nan`. -/
def toText (x : Binary64) : String :=
  match x with
  | nan => "nan"
  | infinity negative => if negative then "-inf" else "inf"
  | finite negative e f =>
    let sign := if negative then "-" else ""
    let positive := finite false e f
    match positive.ratio? with
    | some (num, den) =>
      if num = 0 then sign ++ "0.0"
      else sign ++ layout (shortestDigits positive num.toNat den)
    | none => sign

end SchemaReview.Binary64
