import SchemaReview.Number.Shortest
import SchemaReview.Proofs.Number.Rounding

/-!
# Decimals of numbers

The digits that are chosen for a double-precision value stand for that value: candidates are tried
before they are taken, all digits are exact, and trailing zeros move into the exponent. An integer
is written as a text of digits, after a minus sign if it is negative, from which it is read back.
-/
namespace SchemaReview

/-! ### The decimal text of an integer -/

theorem repr_nat_injective {m n : Nat} (h : m.repr = n.repr) : m = n := by
  have hd : Nat.toDigits 10 m = Nat.toDigits 10 n := by
    rw [← Nat.toList_repr, ← Nat.toList_repr, h]
  rw [← Nat.ofDigitChars_toDigits (by decide : 1 < 10) (by decide) (n := m), hd,
    Nat.ofDigitChars_toDigits (by decide) (by decide)]

theorem isDigit_of_mem_repr {n : Nat} {c : Char} (h : c ∈ n.repr.toList) : c.isDigit = true := by
  rw [Nat.toList_repr] at h
  exact Nat.isDigit_of_mem_toDigits (by decide) (by decide) h

theorem toString_ofNat (n : Nat) : toString (Int.ofNat n) = n.repr := rfl

theorem toString_negSucc (n : Nat) : toString (Int.negSucc n) = "-" ++ (n + 1).repr := rfl

/-- The text of a natural number does not start with a minus sign. -/
theorem repr_ne_minus (m n : Nat) : m.repr ≠ "-" ++ n.repr := by
  intro h
  have hmem : '-' ∈ m.repr.toList := by
    rw [h, String.toList_append]
    exact List.mem_append_left _ List.mem_cons_self
  exact absurd (isDigit_of_mem_repr hmem) (by decide)

theorem toString_int_injective {m n : Int} (h : toString m = toString n) : m = n := by
  cases m with
  | ofNat m =>
    cases n with
    | ofNat n => exact congrArg _ (repr_nat_injective h)
    | negSucc n => exact absurd h (repr_ne_minus m (n + 1))
  | negSucc m =>
    cases n with
    | ofNat n => exact absurd h.symm (repr_ne_minus n (m + 1))
    | negSucc n =>
      rw [toString_negSucc, toString_negSucc, String.append_right_inj] at h
      rw [Nat.succ.inj (repr_nat_injective h)]

theorem of_mem_toString_int {n : Int} {c : Char} (h : c ∈ (toString n).toList) :
    c = '-' ∨ c.isDigit = true := by
  cases n with
  | ofNat n => exact .inr (isDigit_of_mem_repr h)
  | negSucc n =>
    rw [toString_negSucc, String.toList_append, List.mem_append] at h
    refine h.imp (fun hc => ?_) isDigit_of_mem_repr
    simpa using hc

namespace Binary64

/-! ### The digits of a double-precision number -/

theorem digitCount_pos (n : Nat) : 0 < digitCount n := Nat.length_toDigits_pos

theorem digitCount_le_iff {n k : Nat} (hk : 0 < k) : digitCount n ≤ k ↔ n < 10 ^ k :=
  Nat.length_toDigits_le_iff (by decide) hk

theorem digitCount_mul_ten {c : Nat} (hc : c ≠ 0) : digitCount (10 * c) = digitCount c + 1 := by
  have h := Nat.toDigits_append_toDigits (b := 10) (n := c) (d := 0) (by decide)
    (Nat.pos_of_ne_zero hc) (by decide)
  rw [Nat.add_zero] at h
  rw [digitCount, ← h, List.length_append, Nat.toDigits_zero]
  rfl

theorem ofDecimal_zero (negative : Bool) (e : Int) : ofDecimal negative 0 e = zero negative := by
  simp [ofDecimal]

/-- The quotient that a decimal within reach is rounded from. -/
def decimalRatio (negative : Bool) (c : Nat) (e : Int) : Binary64 :=
  if 0 ≤ e then ofRatio negative (c * 10 ^ e.toNat) 1 else ofRatio negative c (10 ^ (-e).toNat)

theorem decimalRatio_mul_ten (negative : Bool) (c : Nat) (e : Int) :
    decimalRatio negative (10 * c) e = decimalRatio negative c (e + 1) := by
  have ten (n : Nat) : 0 < 10 ^ n := by positivity
  unfold decimalRatio
  by_cases he : 0 ≤ e
  · have power : (e + 1).toNat = e.toNat + 1 := by omega
    rw [if_pos he, if_pos (by omega), power, pow_succ]
    congr 1
    ring
  by_cases hz : e = -1
  · subst hz
    rw [if_neg he, if_pos (by omega)]
    exact ofRatio_congr negative (ten _) Nat.one_pos (by norm_num; ring)
  · have power : (-e).toNat = (-(e + 1)).toNat + 1 := by omega
    rw [if_neg he, if_neg (by omega), power, pow_succ]
    exact ofRatio_congr negative (Nat.mul_pos (ten _) (by decide)) (ten _) (by ring)

/-- A factor of ten moves into the exponent. -/
theorem ofDecimal_mul_ten (negative : Bool) (c : Nat) (e : Int) :
    ofDecimal negative (10 * c) e = ofDecimal negative c (e + 1) := by
  by_cases hc : c = 0
  · rw [hc, Nat.mul_zero, ofDecimal_zero, ofDecimal_zero]
  have magnitude : e + (digitCount (10 * c) : Int) = e + 1 + digitCount c := by
    rw [digitCount_mul_ten hc]
    push_cast
    ring
  have ratio := decimalRatio_mul_ten negative c e
  unfold decimalRatio at ratio
  unfold ofDecimal
  rw [if_neg (by omega), if_neg hc]
  simp only [magnitude, Nat.pow_eq, ratio]

theorem ofDecimal_mul_pow (negative : Bool) (c k : Nat) (e : Int) :
    ofDecimal negative (c * 10 ^ k) e = ofDecimal negative c (e + k) := by
  induction k generalizing e with
  | zero => simp
  | succ k ih =>
    rw [pow_succ, ← mul_assoc, mul_comm _ 10, ofDecimal_mul_ten, ih]
    congr 1
    push_cast
    ring

theorem ofDecimal_trim (negative : Bool) (d : Digits) :
    ofDecimal negative d.trim.coefficient d.trim.exponent =
      ofDecimal negative d.coefficient d.exponent := by
  have go (fuel : Nat) : ∀ d : Digits,
      ofDecimal negative (Digits.trim.go fuel d).coefficient (Digits.trim.go fuel d).exponent =
        ofDecimal negative d.coefficient d.exponent := by
    induction fuel with
    | zero => exact fun d => rfl
    | succ fuel ih =>
      intro d
      rw [Digits.trim.go]
      split
      · rename_i h
        rw [ih, ← ofDecimal_mul_ten, Nat.mul_div_cancel' (Nat.dvd_of_mod_eq_zero h.1)]
      · rfl
  exact go _ d

theorem ofDecimal_eq_ratio {c : Nat} {e : Int} (negative : Bool) (hc : c ≠ 0)
    (high : e + (digitCount c : Int) ≤ 310) (low : -330 ≤ e + (digitCount c : Int)) :
    ofDecimal negative c e = decimalRatio negative c e := by
  unfold ofDecimal decimalRatio
  rw [if_neg hc]
  dsimp only
  rw [if_neg (by omega), if_neg (by omega)]
  simp only [Nat.pow_eq]

theorem significand_lt (e : Fin 2047) (f : Fin 4503599627370496) :
    significand e f < 2 ^ 53 := by
  have := f.isLt
  unfold significand hiddenBit
  split <;> omega

/-- All digits of a value stand for it. -/
theorem ofDecimal_exactDigits (e : Fin 2047) (f : Fin 4503599627370496)
    (hm : significand e f ≠ 0) :
    ofDecimal false
      (exactDigits (scaledNum (significand e f) (scale e)) (scaledDen (scale e))).coefficient
      (exactDigits (scaledNum (significand e f) (scale e)) (scaledDen (scale e))).exponent =
        finite false e f := by
  have hlt := significand_lt e f
  have hpos := Nat.pos_of_ne_zero hm
  rw [← ofRatio_exact false e f hm]
  simp only [exactDigits, Nat.pow_eq]
  by_cases hs : 0 ≤ scale e
  · have hden : scaledDen (scale e) = 1 := by simp [scaledDen, hs]
    have reach : (scale e).toNat ≤ 971 := by
      unfold scale
      omega
    have bound : scaledNum (significand e f) (scale e) < 10 ^ 310 := by
      rw [scaledNum, if_pos hs, Nat.shiftLeft_eq]
      calc significand e f * 2 ^ (scale e).toNat
          ≤ 2 ^ 53 * 2 ^ 971 := Nat.mul_le_mul hlt.le (Nat.pow_le_pow_right (by decide) reach)
        _ < 10 ^ 310 := by decide +kernel
    have count := (digitCount_le_iff (by decide)).mpr bound
    have hnum := scaledNum_pos hpos (scale e)
    have low := digitCount_pos (scaledNum (significand e f) (scale e))
    rw [hden]
    have one : Nat.log2 1 = 0 := by decide
    simp only [one, pow_zero, mul_one, Nat.cast_zero, neg_zero]
    rw [ofDecimal_eq_ratio false hnum.ne' (by omega) (by omega)]
    simp [decimalRatio]
  · obtain ⟨j, hj⟩ : ∃ j : Nat, scale e = -(j : Int) := ⟨(-scale e).toNat, by omega⟩
    have reach : j ≤ 1074 ∧ 0 < j := by
      unfold scale at hj hs
      omega
    have hden : scaledDen (scale e) = 2 ^ j := by simp [scaledDen, hj, Nat.shiftLeft_eq]; omega
    have hnum : scaledNum (significand e f) (scale e) = significand e f := by simp [scaledNum, hs]
    rw [hnum, hden, Nat.log2_two_pow]
    have high : digitCount (significand e f * 5 ^ j) ≤ 310 + j := by
      rw [digitCount_le_iff (by omega), pow_add]
      exact Nat.mul_lt_mul_of_lt_of_le (hlt.trans (by decide +kernel))
        (Nat.pow_le_pow_left (by decide) j) (by positivity)
    have low : j ≤ digitCount (significand e f * 5 ^ j) + 330 := by
      by_contra hcon
      obtain ⟨k, rfl⟩ : ∃ k : Nat, j = k + 331 := ⟨j - 331, by omega⟩
      have few : digitCount (significand e f * 5 ^ (k + 331)) ≤ k := by omega
      have hk : 0 < k := (digitCount_pos _).trans_le few
      rw [digitCount_le_iff hk] at few
      have large : 10 ^ k ≤ significand e f * 5 ^ (k + 331) := by
        calc 10 ^ k = 2 ^ k * 5 ^ k := by rw [← Nat.mul_pow]
          _ ≤ 5 ^ 331 * 5 ^ k := by
            refine Nat.mul_le_mul_right _ ?_
            have hk' : k ≤ 743 := by omega
            exact (Nat.pow_le_pow_right (by decide) hk').trans (by decide +kernel)
          _ = 1 * 5 ^ (k + 331) := by rw [Nat.one_mul, pow_add, Nat.mul_comm]
          _ ≤ significand e f * 5 ^ (k + 331) := Nat.mul_le_mul_right _ hpos
      omega
    rw [ofDecimal_eq_ratio false (Nat.mul_pos hpos (by positivity)).ne' (by omega) (by omega),
      decimalRatio, if_neg (by omega), neg_neg, Int.toNat_natCast]
    refine ofRatio_congr false (by positivity) (by positivity) ?_
    rw [show (10 : Nat) = 2 * 5 by rfl, Nat.mul_pow]
    ring

theorem shortestDigits_cases (x : Binary64) (num den : Nat) :
    (∃ d : Digits, ofDecimal false d.coefficient d.exponent = x ∧
      shortestDigits x num den = d.trim) ∨
      shortestDigits x num den = (exactDigits num den).trim := by
  unfold shortestDigits
  generalize (List.range 17).flatMap (fun k => neighbours num den (k + 1)) = candidates
  cases found : candidates.find? fun d => ofDecimal false d.coefficient d.exponent == x with
  | none => exact .inr (by simp only [found, Option.getD_none])
  | some d =>
    have hd := List.find?_some
      (p := fun d : Digits => ofDecimal false d.coefficient d.exponent == x) found
    exact .inl ⟨d, eq_of_beq hd, by simp only [found, Option.getD_some]⟩

/-- The digits that are chosen for a value stand for it. -/
theorem ofDecimal_shortestDigits (e : Fin 2047) (f : Fin 4503599627370496)
    (hm : significand e f ≠ 0) :
    ofDecimal false
      (shortestDigits (finite false e f) (scaledNum (significand e f) (scale e))
        (scaledDen (scale e))).coefficient
      (shortestDigits (finite false e f) (scaledNum (significand e f) (scale e))
        (scaledDen (scale e))).exponent = finite false e f := by
  obtain ⟨d, hd, chosen⟩ | chosen := shortestDigits_cases (finite false e f)
    (scaledNum (significand e f) (scale e)) (scaledDen (scale e))
  · rw [chosen, ofDecimal_trim, hd]
  · rw [chosen, ofDecimal_trim, ofDecimal_exactDigits e f hm]

theorem ofParts_neg (m : Nat) (s : Int) : ofParts true m s = (ofParts false m s).neg := by
  unfold ofParts
  split
  · rfl
  · dsimp only
    split
    · rfl
    · rfl

theorem ofRatio_neg (num den : Nat) : ofRatio true num den = (ofRatio false num den).neg := by
  unfold ofRatio
  split
  · rfl
  · dsimp only
    generalize max (floorLog2 num den - 52) (-1074) = s
    generalize (if 0 ≤ s then roundHalfEven num (den <<< s.toNat)
      else roundHalfEven (num <<< (-s).toNat) den) = m
    split
    · exact ofParts_neg ..
    · exact ofParts_neg ..

/-- The sign of a decimal is the sign of its value. -/
theorem ofDecimal_neg (c : Nat) (e : Int) : ofDecimal true c e = (ofDecimal false c e).neg := by
  unfold ofDecimal
  split
  · rfl
  dsimp only
  split
  · rfl
  split
  · rfl
  split
  · exact ofRatio_neg ..
  · exact ofRatio_neg ..

end Binary64
end SchemaReview
