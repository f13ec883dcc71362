import Mathlib
import SchemaReview.Number.Binary64

/-!
# Rounding to double precision

A quotient is rounded by its value, whatever numerator and denominator it is written with, and a
quotient that a value stands for exactly is rounded to that value.
-/
namespace SchemaReview.Binary64

section

variable {num den : Nat}

/-- The comparison of a power of two with a quotient is made in natural numbers. -/
theorem atLeast_iff (hd : 0 < den) (g : Int) :
    (if 0 ≤ g then den <<< g.toNat ≤ num else den ≤ num <<< (-g).toNat) ↔
      (2 : ℚ) ^ g ≤ (num : ℚ) / den := by
  have hd' : (0 : ℚ) < den := by exact_mod_cast hd
  rw [le_div_iff₀ hd']
  split
  · rename_i h
    obtain ⟨n, rfl⟩ := Int.eq_ofNat_of_zero_le h
    rw [Int.toNat_natCast, Nat.shiftLeft_eq, zpow_natCast, mul_comm]
    norm_cast
  · rename_i h
    obtain ⟨n, rfl⟩ : ∃ n : Nat, g = -(n : Int) := ⟨(-g).toNat, by omega⟩
    have hp : (0 : ℚ) < 2 ^ n := by positivity
    rw [neg_neg, Int.toNat_natCast, Nat.shiftLeft_eq, zpow_neg, zpow_natCast, ← div_eq_inv_mul,
      div_le_iff₀ hp]
    norm_cast

/-- The power of two that is searched for is the floor of the logarithm of the quotient. -/
theorem floorLog2_eq (hn : 0 < num) (hd : 0 < den) :
    floorLog2 num den = Int.log 2 ((num : ℚ) / den) := by
  have hq : (0 : ℚ) < (num : ℚ) / den := by positivity
  have hd' : (0 : ℚ) < den := by exact_mod_cast hd
  have upper : Int.log 2 ((num : ℚ) / den) < (Nat.log2 num : Int) - Nat.log2 den + 1 := by
    rw [← Int.lt_zpow_iff_log_lt (by norm_num) hq, div_lt_iff₀ hd']
    have h1 : (num : ℚ) < 2 ^ (Nat.log2 num + 1) := by exact_mod_cast Nat.lt_log2_self
    have h2 : (2 : ℚ) ^ Nat.log2 den ≤ den := by exact_mod_cast Nat.log2_self_le hd.ne'
    calc (num : ℚ) < 2 ^ (Nat.log2 num + 1) := h1
      _ = 2 ^ ((Nat.log2 num : Int) - Nat.log2 den + 1) * 2 ^ Nat.log2 den := by
          rw [← zpow_natCast, ← zpow_natCast, ← zpow_add₀ (by norm_num)]
          congr 1
          push_cast
          ring
      _ ≤ _ := by gcongr; norm_num
  have lower : (Nat.log2 num : Int) - Nat.log2 den - 1 ≤ Int.log 2 ((num : ℚ) / den) := by
    rw [← Int.zpow_le_iff_le_log (by norm_num) hq, le_div_iff₀ hd']
    have h1 : (2 : ℚ) ^ Nat.log2 num ≤ num := by exact_mod_cast Nat.log2_self_le hn.ne'
    have h2 : (den : ℚ) ≤ 2 ^ (Nat.log2 den + 1) := by exact_mod_cast Nat.lt_log2_self.le
    calc (2 : ℚ) ^ ((Nat.log2 num : Int) - Nat.log2 den - 1) * den
        ≤ 2 ^ ((Nat.log2 num : Int) - Nat.log2 den - 1) * 2 ^ (Nat.log2 den + 1) := by gcongr
      _ = 2 ^ Nat.log2 num := by
          rw [← zpow_natCast, ← zpow_natCast, ← zpow_add₀ (by norm_num)]
          congr 1
          push_cast
          ring
      _ ≤ num := h1
  have reach (g : Int) : (2 : ℚ) ^ g ≤ (num : ℚ) / den ↔ g ≤ Int.log 2 ((num : ℚ) / den) := by
    exact_mod_cast Int.zpow_le_iff_le_log (b := 2) (by norm_num) hq
  have decided := (atLeast_iff hd ((Nat.log2 num : Int) - Nat.log2 den)).trans (reach _)
  unfold floorLog2
  dsimp only
  by_cases h : (Nat.log2 num : Int) - Nat.log2 den ≤ Int.log 2 ((num : ℚ) / den)
  · have := decided.mpr h
    split at this
    · rename_i hg
      simp only [hg, if_true, this, decide_true]
      omega
    · rename_i hg
      simp only [hg, if_false, this, decide_true, if_true]
      omega
  · have := mt decided.mp h
    split at this
    · rename_i hg
      simp only [hg, if_true, this, decide_false, Bool.false_eq_true, if_false]
      omega
    · rename_i hg
      simp only [hg, if_false, this, decide_false, Bool.false_eq_true]
      omega

theorem roundHalfEven_mul (k : Nat) (hk : 0 < k) :
    roundHalfEven (k * num) (k * den) = roundHalfEven num den := by
  unfold roundHalfEven
  rw [Nat.mul_div_mul_left _ _ hk, Nat.mul_mod_mul_left, Nat.mul_left_comm]
  simp only [Nat.mul_lt_mul_left hk]

theorem roundHalfEven_exact (hd : 0 < den) : roundHalfEven (num * den) den = num := by
  unfold roundHalfEven
  simp [Nat.mul_div_cancel _ hd, hd]

end

/-- A quotient is rounded alike when numerator and denominator are multiplied. -/
theorem ofRatio_mul (negative : Bool) {num den : Nat} (hd : 0 < den) (k : Nat) (hk : 0 < k) :
    ofRatio negative (k * num) (k * den) = ofRatio negative num den := by
  by_cases hn : num = 0
  · simp [ofRatio, hn]
  have hn' : 0 < num := Nat.pos_of_ne_zero hn
  have floor : floorLog2 (k * num) (k * den) = floorLog2 num den := by
    rw [floorLog2_eq (Nat.mul_pos hk hn') (Nat.mul_pos hk hd), floorLog2_eq hn' hd]
    push_cast
    rw [mul_div_mul_left _ _ (by exact_mod_cast hk.ne')]
  unfold ofRatio
  rw [if_neg (Nat.mul_pos hk hn').ne', if_neg hn, floor]
  simp only [Nat.shiftLeft_eq, Nat.mul_assoc, roundHalfEven_mul k hk]

/-- A quotient is rounded by its value. -/
theorem ofRatio_congr (negative : Bool) {a b c d : Nat} (hb : 0 < b) (hd : 0 < d)
    (h : a * d = c * b) : ofRatio negative a b = ofRatio negative c d := by
  calc ofRatio negative a b = ofRatio negative (d * a) (d * b) :=
        (ofRatio_mul negative hb d hd).symm
    _ = ofRatio negative (b * c) (b * d) := by
        rw [Nat.mul_comm d a, h, Nat.mul_comm c b, Nat.mul_comm d b]
    _ = ofRatio negative c d := ofRatio_mul negative hd b hb

/-- The numerator of a significand times a power of two. -/
def scaledNum (m : Nat) (s : Int) : Nat := if 0 ≤ s then m <<< s.toNat else m

/-- The denominator of a significand times a power of two. -/
def scaledDen (s : Int) : Nat := if 0 ≤ s then 1 else 1 <<< (-s).toNat

theorem scaledDen_pos (s : Int) : 0 < scaledDen s := by
  unfold scaledDen
  split
  · exact Nat.one_pos
  · simp [Nat.shiftLeft_eq]

theorem scaled_eq (m : Nat) (s : Int) :
    (scaledNum m s : ℚ) / scaledDen s = m * (2 : ℚ) ^ s := by
  unfold scaledNum scaledDen
  split
  · rename_i h
    obtain ⟨n, rfl⟩ := Int.eq_ofNat_of_zero_le h
    simp [Nat.shiftLeft_eq]
  · rename_i h
    obtain ⟨n, rfl⟩ : ∃ n : Nat, s = -(n : Int) := ⟨(-s).toNat, by omega⟩
    simp [Nat.shiftLeft_eq, div_eq_mul_inv]

theorem scaledNum_pos {m : Nat} (hm : 0 < m) (s : Int) : 0 < scaledNum m s := by
  unfold scaledNum
  split
  · rw [Nat.shiftLeft_eq]
    positivity
  · exact hm

theorem floorLog2_scaled {m : Nat} (hm : 0 < m) (s : Int) :
    floorLog2 (scaledNum m s) (scaledDen s) = Nat.log2 m + s := by
  rw [floorLog2_eq (scaledNum_pos hm s) (scaledDen_pos s), scaled_eq]
  have hq : (0 : ℚ) < m * 2 ^ s := by positivity
  have low : (Nat.log2 m : Int) + s ≤ Int.log 2 ((m : ℚ) * 2 ^ s) := by
    rw [← Int.zpow_le_iff_le_log (by norm_num) hq, Nat.cast_ofNat,
      zpow_add₀ (by norm_num), zpow_natCast]
    gcongr
    exact_mod_cast Nat.log2_self_le hm.ne'
  have high : Int.log 2 ((m : ℚ) * 2 ^ s) < (Nat.log2 m : Int) + s + 1 := by
    rw [← Int.lt_zpow_iff_log_lt (by norm_num) hq, Nat.cast_ofNat, add_right_comm,
      zpow_add₀ (by norm_num)]
    gcongr
    exact_mod_cast Nat.lt_log2_self
  omega

theorem roundHalfEven_scaled (m : Nat) (s : Int) :
    (if 0 ≤ s then roundHalfEven (scaledNum m s) (scaledDen s <<< s.toNat)
      else roundHalfEven (scaledNum m s <<< (-s).toNat) (scaledDen s)) = m := by
  unfold scaledNum scaledDen
  split
  · rw [Nat.shiftLeft_eq, Nat.shiftLeft_eq, Nat.one_mul]
    exact roundHalfEven_exact (by positivity)
  · rw [Nat.shiftLeft_eq, Nat.shiftLeft_eq, Nat.one_mul]
    exact roundHalfEven_exact (by positivity)

/-- What a finite value stands for is rounded to that value. -/
theorem ofRatio_exact (negative : Bool) (e : Fin 2047) (f : Fin 4503599627370496)
    (hm : significand e f ≠ 0) :
    ofRatio negative (scaledNum (significand e f) (scale e)) (scaledDen (scale e)) =
      finite negative e f := by
  have hpos := Nat.pos_of_ne_zero hm
  have chosen : max ((Nat.log2 (significand e f) : Int) + scale e - 52) (-1074) = scale e := by
    unfold scale significand at *
    by_cases he : e.val = 0
    · simp only [he, if_true] at hm hpos ⊢
      have := (Nat.log2_lt hm (k := 52)).mpr f.isLt
      omega
    · simp only [he, if_false]
      have hlog : Nat.log2 (hiddenBit + f.val) = 52 := by
        rw [Nat.log2_eq_iff (by unfold hiddenBit; omega)]
        have := f.isLt
        unfold hiddenBit
        omega
      rw [hlog]
      have := e.isLt
      omega
  unfold ofRatio
  rw [if_neg (scaledNum_pos hpos _).ne', floorLog2_scaled hpos, chosen]
  simp only [roundHalfEven_scaled]
  unfold ofParts scale significand
  by_cases he : e.val = 0
  · have hf := f.isLt
    simp only [he, if_true, hiddenBit]
    rw [if_neg (by omega), if_pos hf]
    congr 1
    · exact Fin.ext he.symm
    · exact Fin.ext (Nat.mod_eq_of_lt hf)
  · have hf := f.isLt
    have hlt := e.isLt
    simp only [he, if_false, hiddenBit]
    have biased : ((max e.val 1 : Nat) - 1075 + 1075 : Int).toNat = e.val := by omega
    rw [if_neg (by omega), if_neg (by omega)]
    simp only [biased, hlt, dif_pos]
    rw [Nat.add_sub_cancel_left]
    exact congrArg _ (Fin.ext (Nat.mod_eq_of_lt hf))

end SchemaReview.Binary64
