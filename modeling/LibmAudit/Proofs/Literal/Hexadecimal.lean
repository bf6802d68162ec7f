/-
**The grammar of hexadecimal numerals.**

What a hexadecimal numeral is and which number it writes, apart from how it is read.

* `Hexadecimal.IsDigits`, `IsFraction`: digits of a base in lower case, and those after a point.
* `Hexadecimal.IsNumeral`: a numeral with its sign, its digits and the magnitude that it writes.
* `Hexadecimal.IsNumeral.read`: each numeral is read with its sign and its magnitude.
-/

import LibmAudit.Proofs.Decimal.Grammar
import LibmAudit.Proofs.Literal.Outcome

namespace LibmAudit.Hexadecimal

attribute [local instance (high)] instPowNat

/-- Characters are the digits of a base, in lower case. -/
structure IsDigits (base : ℕ) (chars : List Char) (digits : List ℕ) : Prop where
  below : ∀ digit ∈ digits, digit < base
  written : chars = digits.map Nat.digitChar

/-- An optional point, with or without digits after it. -/
inductive IsFraction : List Char → List ℕ → Prop
  | absent : IsFraction [] []
  | point {chars : List Char} {digits : List ℕ} (rest : IsDigits 16 chars digits) :
      IsFraction ('.' :: chars) digits

/-- A sign, `0x`, digits around an optional point, and a power of two after a `p`, with no more
digits than can be read. Before the `p` there may be no digit at all. -/
inductive IsNumeral : List Char → Bool → List ℕ → ℚ → Prop
  | intro {sign before after sign' power : List Char} {negative negative' : Bool}
      {whole fraction exponent : List ℕ} (first : Decimal.IsSign sign negative)
      (run : IsDigits 16 before whole) (run' : IsFraction after fraction)
      (second : Decimal.IsSign sign' negative') (scale : IsDigits 10 power exponent)
      (some : exponent ≠ []) (short : exponent.length ≤ digitLimit) :
      IsNumeral (sign ++ '0' :: 'x' :: (before ++ (after ++ 'p' :: (sign' ++ power)))) negative
        (whole ++ fraction)
        ((Nat.ofDigits 16 whole.reverse + Nat.ofDigits 16 fraction.reverse / 16 ^ fraction.length) *
          2 ^ signed negative' (Decimal.number exponent : ℤ))

/-! ## Digits -/

namespace IsDigits

variable {base : ℕ} {chars : List Char} {digits : List ℕ}

theorem isHexDigit (run : IsDigits 16 chars digits) :
    ∀ char ∈ chars, isHexDigit char = true := by
  intro char member
  rw [run.written, List.mem_map] at member
  obtain ⟨digit, inside, rfl⟩ := member
  exact (isHexDigit_digitChar digit (run.below digit inside)).1

theorem isDigit (run : IsDigits 10 chars digits) : ∀ char ∈ chars, char.isDigit = true := by
  intro char member
  rw [run.written, List.mem_map] at member
  obtain ⟨digit, inside, rfl⟩ := member
  simp [run.below digit inside]

/-- Hexadecimal digits are taken up to a character that is none. -/
theorem span_append (run : IsDigits 16 chars digits) {char : Char} (rest : List Char)
    (stop : LibmAudit.isHexDigit char = false) :
    (chars ++ char :: rest).takeWhile LibmAudit.isHexDigit = chars ∧
      (chars ++ char :: rest).dropWhile LibmAudit.isHexDigit = char :: rest := by
  rw [List.takeWhile_append_of_pos run.isHexDigit, List.dropWhile_append_of_pos run.isHexDigit]
  simp [stop]

theorem map_value (run : IsDigits base chars digits) {value : Char → ℕ}
    (same : ∀ digit < base, value (Nat.digitChar digit) = digit) : chars.map value = digits := by
  rw [run.written, List.map_map]
  conv_rhs => rw [← List.map_id digits]
  exact List.map_congr_left fun digit member => same digit (run.below digit member)

theorem readHex (run : IsDigits 16 chars digits) :
    readHex chars = Nat.ofDigits 16 digits.reverse := by
  rw [LibmAudit.readHex, run.map_value hexDigitValue_digitChar, Text.readDigits_eq_ofDigits]

theorem readDecimal (run : IsDigits 10 chars digits) :
    Text.readDecimal chars = Decimal.number digits := by
  rw [Text.readDecimal, run.map_value (by decide), Text.readDigits_eq_ofDigits, Decimal.number]

end IsDigits

/-! ## Parts -/

/-- The digits after the point are taken up to the mark of the exponent. -/
theorem IsFraction.exists_digits {chars : List Char} {digits : List ℕ}
    (fraction : IsFraction chars digits) (rest : List Char) :
    ∃ after, IsDigits 16 after digits ∧
      takeHexFraction (chars ++ 'p' :: rest) = (after, 'p' :: rest) := by
  cases fraction with
  | absent => exact ⟨[], ⟨by simp, rfl⟩, rfl⟩
  | @point after _ run =>
    have taken := run.span_append rest (show isHexDigit 'p' = false by decide)
    exact ⟨after, run, Prod.ext taken.1 taken.2⟩

/-- Digits before a fraction are taken up to its point, or to the mark of the exponent. -/
theorem IsFraction.span_append {chars before : List Char} {digits whole : List ℕ}
    (fraction : IsFraction chars digits) (run : IsDigits 16 before whole) (rest : List Char) :
    (before ++ (chars ++ 'p' :: rest)).takeWhile isHexDigit = before ∧
      (before ++ (chars ++ 'p' :: rest)).dropWhile isHexDigit = chars ++ 'p' :: rest := by
  cases fraction with
  | absent => exact run.span_append _ (by decide)
  | point _ => exact run.span_append _ (by decide)

/-- The digits of an exponent start with no sign. -/
theorem IsDigits.head_ne_sign {chars : List Char} {digits : List ℕ}
    (run : IsDigits 10 chars digits) : ∀ char ∈ chars.head?, char ≠ '-' ∧ char ≠ '+' := by
  intro char member
  have digit := run.isDigit char (List.mem_of_mem_head? member)
  constructor <;> rintro rfl <;> exact absurd digit (by decide)

/-! ## Numerals -/

/-- The digits around the point and the place of the last one are the magnitude. -/
theorem significand_mul_two_pow {parts : HexParts} {whole fraction : List ℕ} {power : ℤ}
    (run : IsDigits 16 parts.whole whole) (run' : IsDigits 16 parts.fraction fraction)
    (place : parts.lastPlace = power - 4 * fraction.length) :
    (parts.significand * 2 ^ parts.lastPlace : ℚ) =
      (Nat.ofDigits 16 whole.reverse + Nat.ofDigits 16 fraction.reverse / 16 ^ fraction.length) *
        2 ^ power := by
  have digits : parts.significand =
      Nat.ofDigits 16 whole.reverse * 16 ^ fraction.length + Nat.ofDigits 16 fraction.reverse := by
    rw [HexParts.significand, readHex_append, run.readHex, run'.readHex, run'.written,
      List.length_map]
  have unit : (2 : ℚ) ^ (4 * fraction.length : ℤ) = 16 ^ fraction.length := by
    rw [zpow_mul, zpow_natCast]
    norm_num
  rw [place, digits, zpow_sub₀ two_ne_zero, unit]
  push_cast
  field_simp

/-- A numeral is read with its sign, its digits and its magnitude. -/
theorem IsNumeral.read {chars : List Char} {negative : Bool} {digits : List ℕ} {value : ℚ}
    (numeral : IsNumeral chars negative digits value) : ∃ parts,
      HexParts.ofChars? chars = some parts ∧ parts.negative = negative ∧
      parts.whole.length + parts.fraction.length = digits.length ∧
      parts.exponent.length ≤ digitLimit ∧ parts.significand < 16 ^ digits.length ∧
      (parts.significand * 2 ^ parts.lastPlace : ℚ) = value := by
  cases numeral with
  | @intro sign before after sign' power _ negative' whole fraction exponent first run point second
      scale some short =>
    obtain ⟨tail, run', taken⟩ := point.exists_digits (sign' ++ power)
    obtain ⟨head, left⟩ := point.span_append run (sign' ++ power)
    have filled : power.isEmpty = false := by
      rw [List.isEmpty_eq_false_iff, scale.written]
      exact mt List.map_eq_nil_iff.mp some
    have decimal : power.any (!Char.isDigit ·) = false := by
      rw [List.any_eq_false]
      intro char member
      simp [scale.isDigit char member]
    refine ⟨⟨negative, before, tail, negative', power⟩, ?_, rfl, ?_, ?_, ?_, ?_⟩
    · unfold HexParts.ofChars?
      rw [first.takeSign_append (by rintro _ ⟨rfl⟩; decide)]
      simp only [head, left, taken, second.takeSign_append scale.head_ne_sign, filled, decimal,
        Bool.or_self, Bool.false_eq_true, if_false]
    · dsimp only
      rw [run.written, run'.written, List.length_map, List.length_map, List.length_append]
    · dsimp only
      rwa [scale.written, List.length_map]
    · have all : IsDigits 16 (before ++ tail) (whole ++ fraction) :=
        ⟨List.forall_mem_append.mpr ⟨run.below, run'.below⟩, by
          rw [run.written, run'.written, List.map_append]⟩
      rw [HexParts.significand, all.readHex, ← List.length_reverse]
      refine Nat.ofDigits_lt_base_pow_length (by decide) fun digit member => ?_
      exact all.below digit (List.mem_reverse.mp member)
    · refine significand_mul_two_pow run run' ?_
      rw [HexParts.lastPlace, scale.readDecimal, run'.written, List.length_map]

end LibmAudit.Hexadecimal
