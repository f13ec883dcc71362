import SchemaReview.Proofs.Json.Equality
import SchemaReview.Proofs.Number.Rounding

/-!
# Equality of JSON values is transitive

Whole numbers and floating-point numbers are compared exactly, and a value of the binary64 format
other than zero is the only one of its amount, so equality passes from number to number. From there
it passes through lists and objects.
-/
namespace SchemaReview

namespace Binary64

theorem eqInt_finite {negative : Bool} {e : Fin 2047} {f : Fin 4503599627370496} {n : Int} :
    (finite negative e f).eqInt n = true ↔
      (if negative then -(scaledNum (significand e f) (scale e) : Int)
        else scaledNum (significand e f) (scale e)) = n * scaledDen (scale e) := by
  simp only [eqInt, ratio?, scaledNum, scaledDen, beq_iff_eq]

theorem exists_finite_of_eqInt {x : Binary64} {n : Int} (h : x.eqInt n = true) :
    ∃ negative e f, x = finite negative e f := by
  cases x with
  | finite negative e f => exact ⟨negative, e, f, rfl⟩
  | nan | infinity => simp [eqInt, ratio?] at h

/-- A number other than zero fixes the value that is equal to it. -/
theorem eq_of_eqInt {x y : Binary64} {n : Int} (hn : n ≠ 0) (hx : x.eqInt n = true)
    (hy : y.eqInt n = true) : x = y := by
  have parts {negative : Bool} {e : Fin 2047} {f : Fin 4503599627370496}
      (h : (finite negative e f).eqInt n = true) :
      negative = decide (n < 0) ∧ significand e f ≠ 0 ∧
        scaledNum (significand e f) (scale e) = n.natAbs * scaledDen (scale e) := by
    rw [eqInt_finite] at h
    have den := scaledDen_pos (scale e)
    have amount : scaledNum (significand e f) (scale e) = n.natAbs * scaledDen (scale e) := by
      have abs := congrArg Int.natAbs h
      rw [Int.natAbs_mul, Int.natAbs_natCast] at abs
      rw [← abs]
      split <;> simp
    have positive : 0 < scaledNum (significand e f) (scale e) := by
      rw [amount]
      exact Nat.mul_pos (Int.natAbs_pos.mpr hn) den
    refine ⟨?_, fun zero => ?_, amount⟩
    · cases negative with
      | false =>
        have : 0 ≤ n := by
          by_contra below
          have := Int.mul_neg_of_neg_of_pos (not_le.mp below) (Int.natCast_pos.mpr den)
          simp at h
          omega
        simp [this]
      | true =>
        have : n < 0 := by
          by_contra above
          have := Int.mul_nonneg (not_lt.mp above) (Int.natCast_nonneg (scaledDen (scale e)))
          simp at h
          omega
        simp [this]
    · simp [zero, scaledNum] at positive
  obtain ⟨s, e, f, rfl⟩ := exists_finite_of_eqInt hx
  obtain ⟨t, e', f', rfl⟩ := exists_finite_of_eqInt hy
  obtain ⟨rfl, nonzero, amount⟩ := parts hx
  obtain ⟨rfl, nonzero', amount'⟩ := parts hy
  rw [← ofRatio_exact _ e f nonzero, ← ofRatio_exact _ e' f' nonzero']
  refine ofRatio_congr _ (scaledDen_pos _) (scaledDen_pos _) ?_
  rw [amount, amount']
  ring

theorem int_eq_of_eqInt {x : Binary64} {m n : Int} (hm : x.eqInt m = true)
    (hn : x.eqInt n = true) : m = n := by
  obtain ⟨s, e, f, rfl⟩ := exists_finite_of_eqInt hm
  rw [eqInt_finite] at hm hn
  have den : (scaledDen (scale e) : Int) ≠ 0 := by
    exact_mod_cast (scaledDen_pos (scale e)).ne'
  exact Int.eq_of_mul_eq_mul_right den (hm.symm.trans hn)

theorem numEq_iff {x y : Binary64} :
    x.numEq y = true ↔ x ≠ nan ∧ (x = y ∨ x.eqInt 0 = true ∧ y.eqInt 0 = true) := by
  cases x with
  | nan => simp [numEq]
  | infinity | finite =>
    cases y with
    | nan => simp [numEq, eqInt, ratio?]
    | infinity | finite => simp [numEq]

end Binary64

namespace Json

/-- Two floating-point numbers that are equal to a whole number are equal. -/
theorem numEq_of_eqInt {x y : Binary64} {n : Int} (hx : x.eqInt n = true)
    (hy : y.eqInt n = true) : x.numEq y = true := by
  rw [Binary64.numEq_iff]
  refine ⟨?_, ?_⟩
  · rintro rfl
    simp [Binary64.eqInt, Binary64.ratio?] at hx
  · by_cases hn : n = 0
    · subst hn
      exact .inr ⟨hx, hy⟩
    · exact .inl (Binary64.eq_of_eqInt hn hx hy)

theorem eqInt_of_numEq {x y : Binary64} {n : Int} (h : x.numEq y = true)
    (hx : x.eqInt n = true) : y.eqInt n = true := by
  obtain ⟨-, rfl | ⟨zero, zero'⟩⟩ := Binary64.numEq_iff.mp h
  · exact hx
  · rwa [Binary64.int_eq_of_eqInt hx zero]

theorem numEq_trans {x y z : Binary64} (hxy : x.numEq y = true) (hyz : y.numEq z = true) :
    x.numEq z = true := by
  obtain ⟨notNaN, rfl | ⟨zero, zero'⟩⟩ := Binary64.numEq_iff.mp hxy
  · exact hyz
  · exact numEq_of_eqInt zero (eqInt_of_numEq hyz zero')

theorem Number.eq_trans {a b c : Number} (hab : a.eq b = true) (hbc : b.eq c = true) :
    a.eq c = true := by
  cases a with
  | int m =>
    cases b with
    | int n =>
      obtain rfl : m = n := by simpa [Number.eq] using hab
      exact hbc
    | float y =>
      cases c with
      | int k => simpa [Number.eq] using Binary64.int_eq_of_eqInt hab hbc
      | float z => exact eqInt_of_numEq hbc hab
  | float x =>
    cases b with
    | int n =>
      cases c with
      | int k =>
        obtain rfl : n = k := by simpa [Number.eq] using hbc
        exact hab
      | float z => exact numEq_of_eqInt hab hbc
    | float y =>
      cases c with
      | int k => exact eqInt_of_numEq (by rwa [Binary64.numEq_comm]) hbc
      | float z => exact numEq_trans hab hbc

theorem Number.same_iff {a b : Number} :
    a.same b = true ↔ a.eq b = true ∨ a = .float .nan ∧ b = .float .nan := by
  unfold Number.same
  split
  · simp
  · rename_i other
    refine ⟨.inl, ?_⟩
    rintro (h | ⟨rfl, rfl⟩)
    · exact h
    · exact (other rfl rfl).elim

theorem Number.eq_nan {a : Number} : a.eq (.float .nan) = false := by
  cases a with
  | int => rfl
  | float x => cases x <;> rfl

theorem Number.nan_eq {a : Number} : (Number.float .nan).eq a = false := by
  rw [Number.eq_comm, Number.eq_nan]

theorem Number.same_trans {a b c : Number} (hab : a.same b = true) (hbc : b.same c = true) :
    a.same c = true := by
  rw [Number.same_iff] at *
  obtain hab | ⟨rfl, rfl⟩ := hab
  · obtain hbc | ⟨rfl, rfl⟩ := hbc
    · exact .inl (Number.eq_trans hab hbc)
    · rw [Number.eq_nan] at hab
      cases hab
  · obtain hbc | ⟨-, rfl⟩ := hbc
    · rw [Number.nan_eq] at hbc
      cases hbc
    · exact .inr ⟨rfl, rfl⟩

/-- What is equal to a number is a number. -/
theorem number?_of_same {a b : Json} {m : Number} (ha : a.number? = some m)
    (h : a.same b = true) : ∃ n, b.number? = some n ∧ m.same n = true := by
  rw [same_of_number? ha] at h
  cases hb : b.number? with
  | none => simp [hb] at h
  | some n => exact ⟨n, rfl, by simpa [hb] using h⟩

theorem arr_of_same {xs : List Json} {b : Json} (h : (arr xs).same b = true) :
    ∃ ys, b = .arr ys := by
  cases b with
  | arr ys => exact ⟨ys, rfl⟩
  | _ => cases h

theorem obj_of_same {xs : List (String × Json)} {b : Json} (h : (obj xs).same b = true) :
    ∃ ys, b = .obj ys := by
  cases b with
  | obj ys => exact ⟨ys, rfl⟩
  | _ => cases h

theorem sameItems_trans {xs ys zs : List Json}
    (values : ∀ x ∈ xs, ∀ y z : Json, x.same y = true → y.same z = true → x.same z = true)
    (hxy : sameItems xs ys = true) (hyz : sameItems ys zs = true) : sameItems xs zs = true := by
  induction xs generalizing ys zs with
  | nil =>
    cases ys with
    | nil => exact hyz
    | cons y ys => cases hxy
  | cons x xs ih =>
    cases ys with
    | nil => cases hxy
    | cons y ys =>
      cases zs with
      | nil => cases hyz
      | cons z zs =>
        rw [sameItems, Bool.and_eq_true] at *
        refine ⟨values x List.mem_cons_self y z hxy.1 hyz.1, ih (fun a ha => ?_) hxy.2 hyz.2⟩
        exact values a (List.mem_cons_of_mem _ ha)

theorem sameMembers_trans {xs ys zs : List (String × Json)}
    (values : ∀ e ∈ xs, ∀ y z : Json, e.2.same y = true → y.same z = true → e.2.same z = true)
    (hxy : sameMembers xs ys = true) (hyz : sameMembers ys zs = true) :
    sameMembers xs zs = true := by
  rw [sameMembers_iff] at *
  intro e he
  obtain ⟨y, found, same⟩ := hxy e he
  obtain ⟨z, found', same'⟩ := hyz (e.1, y) (mem_of_member? found)
  exact ⟨z, found', values e he y z same same'⟩

theorem same_trans_of_number? {a b c : Json} {m : Number} (ha : a.number? = some m)
    (hab : a.same b = true) (hbc : b.same c = true) : a.same c = true := by
  obtain ⟨n, hb, hmn⟩ := number?_of_same ha hab
  obtain ⟨k, hc, hnk⟩ := number?_of_same hb hbc
  rw [same_of_number? ha, hc]
  exact Number.same_trans hmn hnk

theorem same_trans {a b c : Json} (hab : a.same b = true) (hbc : b.same c = true) :
    a.same c = true := by
  cases shape : a with
  | bool | int | float => exact same_trans_of_number? rfl (shape ▸ hab) hbc
  | null =>
    rw [shape] at hab
    cases b with
    | null => exact hbc
    | _ => cases hab
  | str s =>
    rw [shape] at hab
    cases b with
    | str t =>
      rw [same, beq_iff_eq] at hab
      exact hab ▸ hbc
    | _ => cases hab
  | arr xs =>
    rw [shape] at hab
    obtain ⟨ys, rfl⟩ := arr_of_same hab
    obtain ⟨zs, rfl⟩ := arr_of_same hbc
    rw [same] at *
    refine sameItems_trans (fun x hx y z => ?_) hab hbc
    have : sizeOf x < sizeOf xs := List.sizeOf_lt_of_mem hx
    exact same_trans
  | obj xs =>
    rw [shape] at hab
    obtain ⟨ys, rfl⟩ := obj_of_same hab
    obtain ⟨zs, rfl⟩ := obj_of_same hbc
    rw [same, Bool.and_eq_true, beq_iff_eq] at *
    refine ⟨hab.1.trans hbc.1, sameMembers_trans (fun e he y z => ?_) hab.2 hbc.2⟩
    have : sizeOf e < sizeOf xs := List.sizeOf_lt_of_mem he
    have : sizeOf e.2 < sizeOf e := by
      obtain ⟨k, v⟩ := e
      simp only [Prod.mk.sizeOf_spec]
      omega
    exact same_trans
termination_by sizeOf a
decreasing_by all_goals simp only [shape, arr.sizeOf_spec, obj.sizeOf_spec]; omega

theorem equals_trans {a b c : Json} (hab : a.equals b = true) (hbc : b.equals c = true) :
    a.equals c = true := by
  have notNaN : a ≠ .float .nan := by
    rintro rfl
    cases hab
  rw [equals_of_ne_nan notNaN] at hab ⊢
  have notNaN' : b ≠ .float .nan := fun nan => notNaN (eq_of_same_nan (nan ▸ hab))
  rw [equals_of_ne_nan notNaN'] at hbc
  exact same_trans hab hbc

/-- A number counts as present if it is not zero. -/
theorem isTruthy_of_number? {a : Json} {m : Number} (ha : a.number? = some m) :
    a.isTruthy = !m.same (.int 0) := by
  cases a with
  | bool b =>
    cases ha
    cases b <;> rfl
  | int n =>
    cases ha
    rfl
  | float x =>
    cases ha
    cases x <;> rfl
  | null | str | arr | obj => cases ha

/-- Equal values are both present, or both absent. -/
theorem isTruthy_of_same {a b : Json} (h : a.same b = true) : a.isTruthy = b.isTruthy := by
  cases a with
  | bool | int | float =>
    obtain ⟨n, hb, hmn⟩ := number?_of_same rfl h
    rw [isTruthy_of_number? rfl, isTruthy_of_number? hb, Bool.not_inj_iff, Bool.eq_iff_iff]
    exact ⟨Number.same_trans (Number.same_comm .. ▸ hmn), Number.same_trans hmn⟩
  | null =>
    cases b with
    | null => rfl
    | _ => cases h
  | str s =>
    cases b with
    | str t =>
      rw [same, beq_iff_eq] at h
      rw [h]
    | _ => cases h
  | arr xs =>
    obtain ⟨ys, rfl⟩ := arr_of_same h
    cases xs <;> cases ys <;> first | rfl | cases h
  | obj xs =>
    obtain ⟨ys, rfl⟩ := obj_of_same h
    rw [same, Bool.and_eq_true, beq_iff_eq] at h
    cases xs <;> cases ys <;> first | rfl | cases h.1

end Json
end SchemaReview
