import Mathlib
import SchemaReview.Json.Reader
import SchemaReview.Json.Writer

/-!
# Reading the strings that are written

Each character of a string is written as itself or as an escape, and each of these is read back as
the character, so a string ends where its text does. A character beyond the first plane is escaped
as two halves.
-/
namespace SchemaReview.Json

/-- Digits from the second last one on are those of the number without its last one. -/
theorem hexDigits_succ (width n : Nat) :
    Text.hexDigits (width + 2) n =
      Text.hexDigits (width + 1) (n / 16) ++ [Nat.digitChar (n % 16)] := by
  unfold Text.hexDigits
  by_cases single : n < 16
  · have zero : n / 16 = 0 := Nat.div_eq_of_lt single
    rw [Nat.toDigits_of_lt_base single, zero, Nat.mod_eq_of_lt single]
    simp [List.replicate_succ']
  · rw [Nat.toDigits_of_base_le (by decide) (by omega)]
    simp

/-- Four digits spell each number of the first plane. -/
theorem hexDigits_four {n : Nat} (hn : n < 0x10000) :
    Text.hexDigits 4 n = [Nat.digitChar (n / 16 / 16 / 16), Nat.digitChar (n / 16 / 16 % 16),
      Nat.digitChar (n / 16 % 16), Nat.digitChar (n % 16)] := by
  have first : n / 16 / 16 / 16 < 16 := by omega
  have leading : Text.hexDigits 1 (n / 16 / 16 / 16) = [Nat.digitChar (n / 16 / 16 / 16)] := by
    rw [Text.hexDigits, Nat.toDigits_of_lt_base first]
    rfl
  rw [hexDigits_succ, hexDigits_succ, hexDigits_succ, leading]
  rfl

theorem hexValue_digitChar {n : Nat} (hn : n < 16) : Text.hexValue? (Nat.digitChar n) = some n := by
  have digits : ∀ n : Fin 16, Text.hexValue? (Nat.digitChar n) = some n.val := by decide
  exact digits ⟨n, hn⟩

/-- The four hexadecimal digits of a number are read back. -/
theorem hexQuad_hexDigits {n : Nat} (hn : n < 0x10000) (rest : List Char) :
    hexQuad? (Text.hexDigits 4 n ++ rest) = some (n, rest) := by
  have value :
      ((n / 16 / 16 / 16 * 16 + n / 16 / 16 % 16) * 16 + n / 16 % 16) * 16 + n % 16 = n := by
    omega
  rw [hexDigits_four hn]
  simp only [List.cons_append, List.nil_append, hexQuad?,
    hexValue_digitChar (show n / 16 / 16 / 16 < 16 by omega),
    hexValue_digitChar (show n / 16 / 16 % 16 < 16 by omega),
    hexValue_digitChar (show n / 16 % 16 < 16 by omega),
    hexValue_digitChar (show n % 16 < 16 by omega), bind, Option.bind, value]
  rfl

section

variable (opened : List Char) (fuel : Nat) {rest : List Char} (acc : List Char)

/-- An escaped number of the first plane is read as its character, unless it is the first half of
another one. -/
theorem scanString_unicodeEscape {n : Nat} (hn : n < 0x10000) (whole : ¬(0xD800 ≤ n ∧ n ≤ 0xDBFF))
    (more : rest ≠ []) :
    scanString opened (fuel + 1) (unicodeEscape n ++ rest) acc =
      scanString opened fuel rest (Char.ofNat n :: acc) := by
  have long : ¬(Text.hexDigits 4 n ++ rest).length ≤ 4 := by
    have := List.length_pos_iff.mpr more
    rw [List.length_append, hexDigits_four hn]
    simp only [List.length_cons, List.length_nil]
    omega
  simp only [unicodeEscape, List.cons_append, scanString, if_neg long, hexQuad_hexDigits hn,
    if_neg whole]

/-- The two halves of a number beyond the first plane are read as its character. -/
theorem scanString_surrogates {n : Nat} (hn : n < 0x100000) (more : rest ≠ []) :
    scanString opened (fuel + 1)
        (unicodeEscape (0xD800 + n / 0x400) ++ (unicodeEscape (0xDC00 + n % 0x400) ++ rest)) acc =
      scanString opened fuel rest (Char.ofNat (n + 0x10000) :: acc) := by
  have high : 0xD800 + n / 0x400 < 0x10000 := by omega
  have low : 0xDC00 + n % 0x400 < 0x10000 := by omega
  have first : 0xD800 ≤ 0xD800 + n / 0x400 ∧ 0xD800 + n / 0x400 ≤ 0xDBFF := by omega
  have second : 0xDC00 ≤ 0xDC00 + n % 0x400 ∧ 0xDC00 + n % 0x400 ≤ 0xDFFF ∧ rest.length ≠ 0 := by
    have := List.length_pos_iff.mpr more
    omega
  have long (others : List Char) :
      ¬(Text.hexDigits 4 (0xD800 + n / 0x400) ++ '\\' :: others).length ≤ 4 := by
    rw [List.length_append, hexDigits_four high]
    simp only [List.length_cons, List.length_nil]
    omega
  have code : 0x10000 + (0xD800 + n / 0x400 - 0xD800) * 0x400 + (0xDC00 + n % 0x400 - 0xDC00) =
      n + 0x10000 := by
    omega
  simp only [unicodeEscape, List.cons_append, scanString, if_neg (long _), hexQuad_hexDigits high,
    if_pos first, lowSurrogate?, hexQuad_hexDigits low, if_pos second, code]

/-- A character is read back from its escape or from itself. -/
theorem scanString_escapeChar (asciiOnly : Bool) (c : Char) (more : rest ≠ []) :
    scanString opened (fuel + 1) (escapeChar asciiOnly c ++ rest) acc =
      scanString opened fuel rest (c :: acc) := by
  by_cases special : c = '"' ∨ c = '\\'
  · obtain rfl | rfl := special
    · rfl
    · rfl
  by_cases named : c = '\n' ∨ c = '\r' ∨ c = '\t' ∨ c = '\x08' ∨ c = '\x0c'
  · obtain rfl | rfl | rfl | rfl | rfl := named
    · rfl
    · rfl
    · rfl
    · rfl
    · rfl
  simp only [not_or] at special named
  have valid : c.toNat < 0xD800 ∨ 0xDFFF < c.toNat ∧ c.toNat < 0x110000 := c.valid
  by_cases control : c.toNat < 0x20
  · have escaped : escapeChar asciiOnly c = unicodeEscape c.toNat := by
      simp [escapeChar, special, named, control]
    rw [escaped, scanString_unicodeEscape _ _ _ (by omega) (by omega) more, Char.ofNat_toNat]
  by_cases beyond : asciiOnly = true ∧ 0x7F ≤ c.toNat
  · by_cases plane : c.toNat < 0x10000
    · have escaped : escapeChar asciiOnly c = unicodeEscape c.toNat := by
        simp [escapeChar, special, named, control, beyond, plane]
      rw [escaped, scanString_unicodeEscape _ _ _ plane (by omega) more, Char.ofNat_toNat]
    · have escaped : escapeChar asciiOnly c =
          unicodeEscape (0xD800 + (c.toNat - 0x10000) / 0x400) ++
            unicodeEscape (0xDC00 + (c.toNat - 0x10000) % 0x400) := by
        simp [escapeChar, special, named, control, beyond, plane]
      have restored : c.toNat - 0x10000 + 0x10000 = c.toNat := by omega
      rw [escaped, List.append_assoc, scanString_surrogates _ _ _ (by omega) more, restored,
        Char.ofNat_toNat]
  · have kept : (asciiOnly && decide (0x7F ≤ c.toNat)) = false := by simpa using beyond
    have plain : escapeChar asciiOnly c = [c] := by
      unfold escapeChar
      rw [kept]
      simp [special, named, control]
    rw [plain, List.singleton_append, scanString, if_neg control]
    · exact special.1
    · rintro rfl
      exact absurd rfl special.2
    · rintro _ rfl
      exact absurd rfl special.2
    · rintro _ _ rfl
      exact absurd rfl special.2

end

/-- A string is read back up to its closing quote. -/
theorem scanString_escaped (opened rest : List Char) (asciiOnly : Bool) (s acc : List Char)
    {fuel : Nat} (enough : s.length < fuel) :
    scanString opened fuel (s.flatMap (escapeChar asciiOnly) ++ '"' :: rest) acc =
      .ok (String.ofList (acc.reverse ++ s), rest) := by
  induction s generalizing fuel acc with
  | nil =>
    obtain ⟨fuel, rfl⟩ := Nat.exists_eq_succ_of_ne_zero enough.ne'
    simp [scanString]
  | cons c cs ih =>
    obtain ⟨fuel, rfl⟩ := Nat.exists_eq_succ_of_ne_zero (Nat.ne_zero_of_lt enough)
    rw [List.flatMap_cons, List.append_assoc, scanString_escapeChar _ _ _ _ _ (by simp),
      ih _ (by simpa using enough)]
    simp

end SchemaReview.Json
