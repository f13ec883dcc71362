import SchemaReview.Json.Reader
import SchemaReview.Json.Writer
import SchemaReview.Proofs.Number.Decimal

/-!
# Reading the numbers that are written

The text of a number is read back as that number, whatever follows it in a document: a number ends
at the end of the text, at a comma or at a closing bracket.
-/
namespace SchemaReview.Json

open Binary64 (Digits digitCount layout exponentText)

/-- Whether a rest of a text starts, if at all, with what follows a value in a document. -/
def Delimited (rest : List Char) : Prop := ∀ c ∈ rest.head?, c = ',' ∨ c = ']' ∨ c = '}'

theorem delimited_nil : Delimited [] := nofun

theorem delimited_cons {c : Char} (rest : List Char) (h : c = ',' ∨ c = ']' ∨ c = '}') :
    Delimited (c :: rest) := by
  intro d hd
  cases hd
  exact h

/-- Whether a rest of a text does not go on with a digit. -/
def NoDigit (rest : List Char) : Prop := ∀ c ∈ rest.head?, c.isDigit = false

theorem noDigit_cons {c : Char} (rest : List Char) (h : c.isDigit = false) :
    NoDigit (c :: rest) := by
  intro d hd
  cases hd
  exact h

theorem Delimited.noDigit {rest : List Char} (h : Delimited rest) : NoDigit rest := by
  intro c hc
  obtain rfl | rfl | rfl := h c hc
  · rfl
  · rfl
  · rfl

section

variable {digits rest : List Char}

theorem takeWhile_digits (hd : ∀ c ∈ digits, c.isDigit = true) (hr : NoDigit rest) :
    (digits ++ rest).takeWhile Char.isDigit = digits := by
  rw [List.takeWhile_append_of_pos hd]
  cases rest with
  | nil => simp
  | cons c rest => simp [hr c rfl]

theorem dropWhile_digits (hd : ∀ c ∈ digits, c.isDigit = true) (hr : NoDigit rest) :
    (digits ++ rest).dropWhile Char.isDigit = rest := by
  rw [List.dropWhile_append_of_pos hd]
  cases rest with
  | nil => rfl
  | cons c rest => simp [hr c rfl]

/-- A fraction is read up to what is no digit. -/
theorem scanFraction_point (nonempty : digits ≠ []) (hd : ∀ c ∈ digits, c.isDigit = true)
    (hr : NoDigit rest) : scanFraction ('.' :: (digits ++ rest)) = some (digits, rest) := by
  simp only [scanFraction, takeWhile_digits hd hr, dropWhile_digits hd hr]
  simp [nonempty]

theorem scanFraction_delimited (hr : Delimited rest) : scanFraction rest = none := by
  cases rest with
  | nil => rfl
  | cons c rest =>
    obtain rfl | rfl | rfl := hr c rfl
    · rfl
    · rfl
    · rfl

theorem scanExponent_delimited (hr : Delimited rest) : scanExponent rest = none := by
  cases rest with
  | nil => rfl
  | cons c rest =>
    obtain rfl | rfl | rfl := hr c rfl
    · rfl
    · rfl
    · rfl

theorem scanExponent_marked (negative : Bool) (nonempty : digits ≠ [])
    (hd : ∀ c ∈ digits, c.isDigit = true) (hr : NoDigit rest) :
    scanExponent ('e' :: (if negative then '-' else '+') :: (digits ++ rest)) =
      some (if negative then -(Text.digitsNat digits : Int) else Text.digitsNat digits, rest) := by
  cases negative with
  | true => simp [scanExponent, takeWhile_digits hd hr, dropWhile_digits hd hr, nonempty]
  | false => simp [scanExponent, takeWhile_digits hd hr, dropWhile_digits hd hr, nonempty]

end

/-- The sign of a number as it is written. -/
def signText (negative : Bool) : List Char := if negative then ['-'] else []

/-- Whether a text is the whole part of a number: digits without a zero in front. -/
structure IsWhole (whole : List Char) : Prop where
  nonempty : whole ≠ []
  digits : ∀ c ∈ whole, c.isDigit = true
  lead : whole = ['0'] ∨ whole.head? ≠ some '0'

theorem wholeDigits_eq {whole tail : List Char} (hw : IsWhole whole) (ht : NoDigit tail) :
    wholeDigits (whole ++ tail) = whole := by
  obtain rfl | lead := hw.lead
  · rfl
  · unfold wholeDigits
    split
    · rename_i rest h
      cases whole with
      | nil => exact absurd rfl hw.nonempty
      | cons d ds => exact absurd (congrArg some (List.cons.inj h).1) lead
    · exact takeWhile_digits hw.digits ht

theorem splitMinus_eq (negative : Bool) {whole : List Char} (hw : IsWhole whole)
    (tail : List Char) :
    splitMinus (signText negative ++ (whole ++ tail)) = (negative, whole ++ tail) := by
  cases negative with
  | true => rfl
  | false =>
    rw [signText, if_neg Bool.false_ne_true, List.nil_append, splitMinus]
    rintro rest h
    cases whole with
    | nil => exact absurd rfl hw.nonempty
    | cons d ds =>
      have digit := hw.digits d List.mem_cons_self
      rw [(List.cons.inj h).1] at digit
      exact absurd digit (by decide)

/-- A number is read part by part. -/
theorem scanNumber_eq (negative : Bool) {whole tail : List Char} (hw : IsWhole whole)
    (ht : NoDigit tail) :
    scanNumber (signText negative ++ (whole ++ tail)) =
      .ok (numberOf negative whole ((scanFraction tail).map (·.1))
        ((scanExponent (restAfter (scanFraction tail) tail)).map (·.1)),
        restAfter (scanExponent (restAfter (scanFraction tail) tail))
          (restAfter (scanFraction tail) tail)) := by
  have nonempty : whole.isEmpty = false := by simpa using hw.nonempty
  unfold scanNumber
  simp only [splitMinus_eq negative hw, wholeDigits_eq hw ht, nonempty, Bool.false_eq_true,
    if_false, List.drop_left]

section

variable {whole digits rest : List Char}

theorem scanNumber_delimited (negative : Bool) (hw : IsWhole whole) (hr : Delimited rest) :
    scanNumber (signText negative ++ (whole ++ rest)) =
      .ok (.int (if negative then -(Text.digitsNat whole : Int) else Text.digitsNat whole),
        rest) := by
  rw [scanNumber_eq negative hw hr.noDigit, scanFraction_delimited hr]
  simp only [restAfter, scanExponent_delimited hr]
  rfl

theorem scanNumber_point (negative : Bool) (hw : IsWhole whole) (nonempty : digits ≠ [])
    (hd : ∀ c ∈ digits, c.isDigit = true) (hr : Delimited rest) :
    scanNumber (signText negative ++ (whole ++ '.' :: (digits ++ rest))) =
      .ok (.float (.ofDecimal negative (Text.digitsNat (whole ++ digits)) (-digits.length)),
        rest) := by
  rw [scanNumber_eq negative hw (noDigit_cons _ rfl), scanFraction_point nonempty hd hr.noDigit]
  simp only [restAfter, scanExponent_delimited hr, numberOf, Option.map_some, Option.map_none,
    Option.getD_some, Option.getD_none, zero_sub]

/-- A fraction as it is written where it may be absent. -/
def fractionText (digits : List Char) : List Char :=
  if digits.isEmpty then [] else '.' :: digits

theorem scanFraction_fractionText {tail : List Char} (hd : ∀ c ∈ digits, c.isDigit = true) :
    scanFraction (fractionText digits ++ 'e' :: tail) =
      if digits.isEmpty then none else some (digits, 'e' :: tail) := by
  unfold fractionText
  split
  · rfl
  · rename_i h
    exact scanFraction_point (by simpa using h) hd (noDigit_cons _ rfl)

theorem scanNumber_exponent (negative down : Bool) {places : List Char} (hw : IsWhole whole)
    (hd : ∀ c ∈ digits, c.isDigit = true) (nonempty : places ≠ [])
    (hp : ∀ c ∈ places, c.isDigit = true) (hr : Delimited rest) :
    scanNumber (signText negative ++ (whole ++ (fractionText digits ++
      'e' :: (if down then '-' else '+') :: (places ++ rest)))) =
      .ok (.float (.ofDecimal negative (Text.digitsNat (whole ++ digits))
        ((if down then -(Text.digitsNat places : Int) else Text.digitsNat places) -
          digits.length)), rest) := by
  have ht : NoDigit (fractionText digits ++
      'e' :: (if down then '-' else '+') :: (places ++ rest)) := by
    unfold fractionText
    split
    · exact noDigit_cons _ rfl
    · exact noDigit_cons _ rfl
  rw [scanNumber_eq negative hw ht, scanFraction_fractionText hd]
  have exponent := scanExponent_marked down nonempty hp hr.noDigit
  cases digits with
  | nil =>
    simp only [List.isEmpty_nil, if_true, restAfter, fractionText, List.nil_append, exponent,
      numberOf, Option.map_none, Option.map_some, Option.getD_none, Option.getD_some]
  | cons c cs =>
    simp only [List.isEmpty_cons, Bool.false_eq_true, if_false, restAfter, exponent, numberOf,
      Option.map_some, Option.getD_some]

end

theorem digitsNat_toDigits (n : Nat) : Text.digitsNat (Nat.toDigits 10 n) = n :=
  Nat.ofDigitChars_ten_toDigits

theorem isDigit_toDigits (n : Nat) : ∀ c ∈ Nat.toDigits 10 n, c.isDigit = true :=
  fun _ hc => Nat.isDigit_of_mem_toDigits (by decide) (by decide) hc

/-- The digits of a positive number do not start with a zero. -/
theorem head?_toDigits_ne {n : Nat} (hn : n ≠ 0) : (Nat.toDigits 10 n).head? ≠ some '0' := by
  induction n using Nat.strong_induction_on with
  | _ n ih =>
    rw [Nat.toDigits_eq_if (by decide)]
    split
    · rename_i h
      interval_cases n <;> simp_all
    · rename_i h
      have hd : n / 10 ≠ 0 := by omega
      have hrest := ih (n / 10) (by omega) hd
      cases hdigits : Nat.toDigits 10 (n / 10) with
      | nil => exact absurd hdigits Nat.toDigits_ne_nil
      | cons c cs =>
        rw [hdigits] at hrest
        exact hrest

theorem isWhole_toDigits (n : Nat) : IsWhole (Nat.toDigits 10 n) := by
  refine ⟨Nat.toDigits_ne_nil, isDigit_toDigits n, ?_⟩
  by_cases hn : n = 0
  · exact .inl (by rw [hn, Nat.toDigits_zero])
  · exact .inr (head?_toDigits_ne hn)

/-- An integer is read back from its text. -/
theorem scanNumber_int (n : Int) {rest : List Char} (hr : Delimited rest) :
    scanNumber ((toString n).toList ++ rest) = .ok (.int n, rest) := by
  cases n with
  | ofNat n =>
    have read := scanNumber_delimited false (isWhole_toDigits n) hr
    rw [toString_ofNat, Nat.toList_repr]
    simpa [signText, digitsNat_toDigits] using read
  | negSucc n =>
    have read := scanNumber_delimited true (isWhole_toDigits (n + 1)) hr
    rw [toString_negSucc, String.toList_append, Nat.toList_repr]
    simpa [signText, digitsNat_toDigits, Int.negSucc_eq] using read

theorem digitsNat_append (a b : List Char) :
    Text.digitsNat (a ++ b) = Nat.ofDigitChars 10 b (Text.digitsNat a) :=
  Nat.ofDigitChars_append 0

theorem isDigit_replicate (k : Nat) : ∀ c ∈ List.replicate k '0', c.isDigit = true := by
  intro c hc
  rw [List.eq_of_mem_replicate hc]
  rfl

/-- The digits of an exponent are read back, a zero in front of them or not. -/
theorem exponentText_eq (e : Int) : ∃ places : List Char, places ≠ [] ∧
    (∀ c ∈ places, c.isDigit = true) ∧ Text.digitsNat places = e.natAbs ∧
    (exponentText e).toList = 'e' :: (if e < 0 then '-' else '+') :: places := by
  have text : (toString e.natAbs).toList = Nat.toDigits 10 e.natAbs := Nat.toList_repr
  have sign : (if e < 0 then "e-" else "e+").toList = ['e', if e < 0 then '-' else '+'] := by
    split
    · rfl
    · rfl
  unfold exponentText
  dsimp only
  rw [String.toList_append, sign]
  by_cases short : (toString e.natAbs).length < 2
  · rw [if_pos short, String.toList_append, text]
    refine ⟨'0' :: Nat.toDigits 10 e.natAbs, by simp, ?_, ?_, rfl⟩
    · exact List.forall_mem_cons.mpr ⟨rfl, isDigit_toDigits _⟩
    · exact (digitsNat_append ['0'] _).trans (digitsNat_toDigits _)
  · rw [if_neg short, text]
    exact ⟨_, Nat.toDigits_ne_nil, isDigit_toDigits _, digitsNat_toDigits _, rfl⟩

/-- Whether digits spell a positive number, without a zero in front. -/
structure Spells (ds : List Char) (n : Nat) : Prop where
  nonempty : ds ≠ []
  digits : ∀ c ∈ ds, c.isDigit = true
  lead : ds.head? ≠ some '0'
  value : Text.digitsNat ds = n

theorem spells_toDigits {n : Nat} (hn : n ≠ 0) : Spells (Nat.toDigits 10 n) n :=
  ⟨Nat.toDigits_ne_nil, isDigit_toDigits n, head?_toDigits_ne hn, digitsNat_toDigits n⟩

section

variable {ds rest : List Char} {c : Nat} (negative : Bool)

/-- Zeros between the point and the digits. -/
theorem scanNumber_zerosBefore (h : Spells ds c) (hr : Delimited rest) (k : Nat) :
    scanNumber (signText negative ++ ('0' :: '.' :: (List.replicate k '0' ++ ds ++ rest))) =
      .ok (.float (.ofDecimal negative c (-(k + ds.length : Nat))), rest) := by
  have zero : IsWhole ['0'] := ⟨by simp, by simp, .inl rfl⟩
  have value : Text.digitsNat (['0'] ++ (List.replicate k '0' ++ ds)) = c := by
    rw [digitsNat_append, Nat.ofDigitChars_append, Nat.ofDigitChars_replicate_zero]
    exact h.value
  have nonempty : List.replicate k '0' ++ ds ≠ [] := by simp [h.nonempty]
  have read := scanNumber_point negative zero nonempty
    (List.forall_mem_append.mpr ⟨isDigit_replicate k, h.digits⟩) hr
  rw [value, List.length_append, List.length_replicate] at read
  exact read

/-- The point among the digits. -/
theorem scanNumber_pointAmong (h : Spells ds c) (hr : Delimited rest) {n : Nat} (hn : 0 < n)
    (inside : n < ds.length) :
    scanNumber (signText negative ++ (ds.take n ++ '.' :: (ds.drop n ++ rest))) =
      .ok (.float (.ofDecimal negative c (-(ds.length - n : Nat))), rest) := by
  have whole : IsWhole (ds.take n) := by
    refine ⟨?_, fun c hc => h.digits c (List.mem_of_mem_take hc), .inr ?_⟩
    · simp [h.nonempty, hn.ne']
    · rw [List.head?_take, if_neg hn.ne']
      exact h.lead
  have nonempty : ds.drop n ≠ [] := by simpa using inside
  have read := scanNumber_point negative whole nonempty
    (fun c hc => h.digits c (List.mem_of_mem_drop hc)) hr
  rw [List.take_append_drop, h.value, List.length_drop] at read
  exact read

/-- Zeros between the digits and the point. -/
theorem scanNumber_zerosAfter (h : Spells ds c) (hr : Delimited rest) (k : Nat) :
    scanNumber (signText negative ++ (ds ++ List.replicate k '0' ++ '.' :: '0' :: rest)) =
      .ok (.float (.ofDecimal negative c k), rest) := by
  have whole : IsWhole (ds ++ List.replicate k '0') := by
    refine ⟨by simp [h.nonempty], List.forall_mem_append.mpr ⟨h.digits, isDigit_replicate k⟩,
      .inr ?_⟩
    rw [List.head?_append_of_ne_nil _ h.nonempty]
    exact h.lead
  have value : Text.digitsNat (ds ++ List.replicate k '0' ++ ['0']) = c * 10 ^ (k + 1) := by
    rw [List.append_assoc, ← List.replicate_succ', digitsNat_append,
      Nat.ofDigitChars_replicate_zero, h.value, Nat.mul_comm]
  have exponent : -(['0'].length : Int) + (k + 1 : Nat) = k := by
    rw [List.length_singleton]
    omega
  have read := scanNumber_point negative whole (List.cons_ne_nil '0' []) (by simp) hr
  rw [value, Binary64.ofDecimal_mul_pow, exponent] at read
  exact read

/-- One digit before the point, and an exponent. -/
theorem scanNumber_scientific (h : Spells ds c) (hr : Delimited rest) (e : Int) :
    scanNumber (signText negative ++ (ds.take 1 ++ (fractionText (ds.drop 1) ++
      ((exponentText e).toList ++ rest)))) =
      .ok (.float (.ofDecimal negative c (e - (ds.length - 1 : Nat))), rest) := by
  obtain ⟨places, nonempty, hp, value, text⟩ := exponentText_eq e
  have whole : IsWhole (ds.take 1) := by
    refine ⟨by simp [h.nonempty], fun c hc => h.digits c (List.mem_of_mem_take hc), .inr ?_⟩
    rw [List.head?_take, if_neg Nat.one_ne_zero]
    exact h.lead
  have fraction : ∀ c ∈ ds.drop 1, c.isDigit = true :=
    fun c hc => h.digits c (List.mem_of_mem_drop hc)
  have read := scanNumber_exponent negative (decide (e < 0)) whole fraction nonempty hp hr
  have signed : (if decide (e < 0) then -(e.natAbs : Int) else e.natAbs) = e := by
    by_cases he : e < 0
    · rw [decide_eq_true he, if_pos rfl]
      omega
    · rw [decide_eq_false he, if_neg Bool.false_ne_true]
      omega
  rw [List.take_append_drop, h.value, value, signed, List.length_drop] at read
  rw [text]
  simpa using read

/-- Digits are read back from the text that they are laid out in. -/
theorem scanNumber_layout {d : Digits} (hd : d.coefficient ≠ 0) (hr : Delimited rest) :
    scanNumber (signText negative ++ ((layout d).toList ++ rest)) =
      .ok (.float (.ofDecimal negative d.coefficient d.exponent), rest) := by
  have spells := spells_toDigits hd
  unfold layout
  generalize Nat.toDigits 10 d.coefficient = ds at spells
  have count := List.length_pos_iff.mpr spells.nonempty
  dsimp only
  by_cases positional : -4 < d.exponent + (ds.length : Int) ∧ d.exponent + (ds.length : Int) ≤ 16
  · rw [if_pos positional]
    by_cases low : d.exponent + (ds.length : Int) ≤ 0
    · have read := scanNumber_zerosBefore negative spells hr (-(d.exponent + ds.length)).toNat
      have exponent : -(((-(d.exponent + ds.length)).toNat + ds.length : Nat) : Int) =
          d.exponent := by omega
      rw [exponent] at read
      rw [if_pos low]
      simpa using read
    rw [if_neg low]
    by_cases inside : (d.exponent + (ds.length : Int)).toNat < ds.length
    · have read := scanNumber_pointAmong negative spells hr (by omega) inside
      have exponent : -((ds.length - (d.exponent + (ds.length : Int)).toNat : Nat) : Int) =
          d.exponent := by omega
      rw [exponent] at read
      rw [if_pos inside]
      simpa using read
    · have read := scanNumber_zerosAfter negative spells hr
        ((d.exponent + (ds.length : Int)).toNat - ds.length)
      have exponent : (((d.exponent + (ds.length : Int)).toNat - ds.length : Nat) : Int) =
          d.exponent := by omega
      rw [exponent] at read
      rw [if_neg inside]
      simpa using read
  · have read := scanNumber_scientific negative spells hr (d.exponent + ds.length - 1)
    have exponent : d.exponent + ds.length - 1 - (ds.length - 1 : Nat) = d.exponent := by omega
    rw [exponent] at read
    rw [if_neg positional]
    have fraction : (if (ds.drop 1).isEmpty then "" else "." ++ String.ofList (ds.drop 1)).toList =
        fractionText (ds.drop 1) := by
      unfold fractionText
      split
      · rfl
      · simp
    simp only [String.toList_append, String.toList_ofList, fraction, List.append_assoc]
    exact read

end

theorem significand_eq_zero {e : Fin 2047} {f : Fin 4503599627370496}
    (h : Binary64.significand e f = 0) : e = 0 ∧ f = 0 := by
  unfold Binary64.significand Binary64.hiddenBit at h
  split at h
  · rename_i he
    exact ⟨Fin.ext he, Fin.ext h⟩
  · omega

theorem toText_finite (negative : Bool) (e : Fin 2047) (f : Fin 4503599627370496) :
    (Binary64.toText (.finite negative e f)).toList = signText negative ++
      (if Binary64.significand e f = 0 then ['0', '.', '0']
        else (layout (Binary64.shortestDigits (.finite false e f)
          (Binary64.scaledNum (Binary64.significand e f) (Binary64.scale e))
          (Binary64.scaledDen (Binary64.scale e)))).toList) := by
  have ratio : (Binary64.finite false e f).ratio? =
      some ((Binary64.scaledNum (Binary64.significand e f) (Binary64.scale e) : Int),
        Binary64.scaledDen (Binary64.scale e)) := rfl
  have sign : (if negative then "-" else "").toList = signText negative := by
    cases negative with
    | true => rfl
    | false => rfl
  simp only [Binary64.toText, ratio, Int.toNat_natCast]
  by_cases hm : Binary64.significand e f = 0
  · have hnum : (Binary64.scaledNum 0 (Binary64.scale e) : Int) = 0 := by
      simp [Binary64.scaledNum]
    rw [if_pos hm, hm, if_pos hnum, String.toList_append, sign]
    rfl
  · have hpos := Binary64.scaledNum_pos (Nat.pos_of_ne_zero hm) (Binary64.scale e)
    rw [if_neg hm, if_neg (by exact_mod_cast hpos.ne'), String.toList_append, sign]

/-- A floating-point number is read back from its text. -/
theorem scanNumber_finite (negative : Bool) (e : Fin 2047) (f : Fin 4503599627370496)
    {rest : List Char} (hr : Delimited rest) :
    scanNumber ((Binary64.toText (.finite negative e f)).toList ++ rest) =
      .ok (.float (.finite negative e f), rest) := by
  rw [toText_finite, List.append_assoc]
  by_cases hm : Binary64.significand e f = 0
  · obtain ⟨rfl, rfl⟩ := significand_eq_zero hm
    have zero : IsWhole ['0'] := ⟨by simp, by simp, .inl rfl⟩
    have read := scanNumber_point negative zero (List.cons_ne_nil '0' []) (by simp) hr
    have value : Text.digitsNat (['0'] ++ ['0']) = 0 := rfl
    rw [value, Binary64.ofDecimal_zero] at read
    rw [if_pos hm]
    exact read
  · have chosen := Binary64.ofDecimal_shortestDigits e f hm
    have signed : ∀ n : Bool, Binary64.ofDecimal n
        (Binary64.shortestDigits (.finite false e f)
          (Binary64.scaledNum (Binary64.significand e f) (Binary64.scale e))
          (Binary64.scaledDen (Binary64.scale e))).coefficient
        (Binary64.shortestDigits (.finite false e f)
          (Binary64.scaledNum (Binary64.significand e f) (Binary64.scale e))
          (Binary64.scaledDen (Binary64.scale e))).exponent = .finite n e f := by
      intro n
      cases n with
      | false => exact chosen
      | true =>
        rw [Binary64.ofDecimal_neg, chosen]
        rfl
    rw [if_neg hm, scanNumber_layout negative ?_ hr, signed]
    intro zero
    rw [zero, Binary64.ofDecimal_zero] at chosen
    cases chosen
    exact hm rfl

end SchemaReview.Json
