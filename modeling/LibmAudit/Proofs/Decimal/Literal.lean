/-
**Decimal literals are rounded correctly.**

* `IsLiteral`: a numeral after an optional sign, with blanks around it.
* `HexParts.ofChars?_eq_none`: it is no hexadecimal literal.
* `Format.decode_decimal`: it is decoded to the number it writes, rounded to nearest even, in every
  format; the quotient that is rounded has enough bits.
-/

import LibmAudit.Literal
import LibmAudit.Proofs.Decimal.Grammar
import LibmAudit.Proofs.Rounding.Outcome
import LibmAudit.Proofs.Rounding.Ratio

namespace LibmAudit

attribute [local instance (high)] instPowNat

theorem Text.mem_of_mem_takeSign {chars : List Char} {char : Char}
    (member : char ∈ (Text.takeSign chars).2) : char ∈ chars := by
  unfold Text.takeSign at member
  split at member
  · exact List.mem_cons_of_mem _ member
  · exact List.mem_cons_of_mem _ member
  · exact member

/-- A text without its letter is no hexadecimal literal. -/
theorem HexParts.ofChars?_eq_none {chars : List Char} (letter : 'x' ∉ chars) :
    HexParts.ofChars? chars = none := by
  unfold HexParts.ofChars?
  dsimp only
  split
  · next rest same =>
    refine absurd (Text.mem_of_mem_takeSign ?_) letter
    rw [same]
    simp
  · rfl

namespace Decimal

/-- A numeral with a number, after an optional minus or plus, and blanks around it. -/
inductive IsLiteral : String → Bool → ℚ → Prop
  | intro {before sign chars after : List Char} {negative : Bool} {value : ℚ}
      (blank : ∀ char ∈ before, Text.isBlank char = true)
      (blank' : ∀ char ∈ after, Text.isBlank char = true)
      (first : IsSign sign negative) (numeral : IsNumeral chars value) :
      IsLiteral (String.ofList (before ++ (sign ++ chars) ++ after)) negative value

/-- Without its blanks and in lower case a literal is a sign and a numeral. -/
theorem IsLiteral.normal {literal : String} {negative : Bool} {value : ℚ}
    (written : IsLiteral literal negative value) : ∃ sign chars, IsSign sign negative ∧
      IsNumeral chars value ∧
        (Text.lowerCase (Text.strip literal)).toList = sign ++ chars := by
  cases written with
  | @intro before sign chars after _ _ blank blank' first numeral =>
    have numeric : ∀ char ∈ sign ++ chars, Text.IsNumeric char := fun char member =>
      (List.mem_append.mp member).elim (first.isNumeric char) (numeral.isNumeric char)
    refine ⟨sign, chars.map Text.lowerChar, first, numeral.lowerCase, ?_⟩
    rw [Text.lowerCase, Text.strip, String.toList_ofList, String.toList_ofList,
      String.toList_ofList,
      Text.stripChars_append blank blank' fun char member => (numeric char member).not_isBlank,
      Text.lowerFrom_of_numeric [] numeric, List.map_append, first.map_lowerChar]

end Decimal

namespace Format

open Decimal

variable (format : Format) {text : String} {sign chars : List Char} {negative : Bool} {value : ℚ}

theorem decode_text (literal : String) :
    format.decode (.text literal) = format.decodeText literal := rfl

/-- A number is no name. -/
theorem decodeName?_of_numeral (first : IsSign sign negative) (numeral : IsNumeral chars value)
    (written : text.toList = sign ++ chars) : format.decodeName? text = none := by
  have other (name : String) (letter : 'n' ∈ name.toList) : String.ofList chars ≠ name := by
    rintro rfl
    rw [String.toList_ofList] at letter
    have numeric := numeral.isNumeric 'n' letter
    exact absurd numeric (by unfold Text.IsNumeric; decide)
  unfold decodeName?
  rw [written, first.takeSign_append numeral.head_ne_sign]
  dsimp only
  rw [if_neg (other "nan" (by decide)), if_neg]
  rintro (short | long)
  · exact other "inf" (by decide) short
  · exact other "infinity" (by decide) long

/-- A shift that is too long is no lack of room. -/
theorem map_checkLength_ne_sticky {α : Type} {result : Unit → α} {length width : ℕ}
    {exponent : ℤ} :
    (checkLength length).map result ≠ .error (.stickyWithoutRoom width exponent) := by
  intro refused
  cases checked : checkLength length with
  | ok _ =>
    rw [checked] at refused
    exact absurd refused nofun
  | error fault =>
    rw [checked] at refused
    obtain ⟨either, -⟩ := checkLength_eq_error checked
    rcases either with rfl | rfl <;> exact absurd refused nofun

/-- A number may be given as any quotient. -/
theorem roundRatio_isRounding_of_eq (mode : Mode) (negative : Bool) {numerator denominator : ℕ}
    (nonzero : denominator ≠ 0) (same : (numerator / denominator : ℚ) = value) :
    format.IsRounding mode negative value
      (format.roundRatio mode negative numerator denominator) := by
  rw [← same, Rat.cast_div, Rat.cast_natCast, Rat.cast_natCast]
  exact format.roundRatio_isRounding mode negative nonzero

/-- A numeral is decoded to its number, rounded to nearest even. -/
theorem decodeDecimal_of_numeral (first : IsSign sign negative) (numeral : IsNumeral chars value)
    (written : text.toList = sign ++ chars) : ∃ result,
      format.decodeDecimal text = .ok result.pattern ∧
        format.IsRounding .nearestEven negative value result := by
  obtain ⟨parsed, numerator, denominator, read, short, ratio, nonzero, same⟩ := numeral.read
  refine ⟨format.roundRatio .nearestEven negative numerator denominator, ?_,
    format.roundRatio_isRounding_of_eq .nearestEven negative nonzero same⟩
  unfold decodeDecimal
  rw [written, first.takeSign_append numeral.head_ne_sign]
  simp only [read, if_neg (not_lt.mpr short), ratio]

/-- A decimal literal is decoded to the correctly rounded number that it writes, with its sign, in
every format. However the number is given as a quotient, what is left of the quotient for rounding
has three bits more than the precision, so that its sticky bit has room, and it gives the same
pattern. -/
theorem decode_decimal {literal : String} (written : IsLiteral literal negative value) :
    ∃ result, format.decode (.text literal) = .ok result.pattern ∧
      format.IsRounding .nearestEven negative value result ∧
      (∀ other, format.IsRounding .nearestEven negative value other → other = result) ∧
      ∀ numerator denominator : ℕ, numerator ≠ 0 → denominator ≠ 0 →
        (numerator / denominator : ℚ) = value →
          format.precision + 3 ≤ bitLength (format.ratioSignificand numerator denominator) ∧
          (∀ width exponent, format.round .nearestEven negative
              (format.ratioSignificand numerator denominator)
              (format.ratioExponent numerator denominator)
              (format.ratioSticky numerator denominator) ≠
            .error (.stickyWithoutRoom width exponent)) ∧
          (bitLength denominator + 3 < storageLimit →
            format.round .nearestEven negative (format.ratioSignificand numerator denominator)
              (format.ratioExponent numerator denominator)
              (format.ratioSticky numerator denominator) = .ok result) := by
  obtain ⟨sign, chars, first, numeral, normal⟩ := written.normal
  obtain ⟨result, decoded, rounding⟩ := format.decodeDecimal_of_numeral first numeral normal
  have letter : 'x' ∉ sign ++ chars := fun member =>
    (List.mem_append.mp member).elim (fun inside => (first.isNumeric _ inside).ne_x rfl)
      fun inside => (numeral.isNumeric _ inside).ne_x rfl
  refine ⟨result, ?_, rounding, fun other rounding' => rounding'.unique rounding, ?_⟩
  · rw [decode_text]
    unfold decodeText
    dsimp only
    rw [format.decodeName?_of_numeral first numeral normal, normal,
      HexParts.ofChars?_eq_none letter]
    exact decoded
  · intro numerator denominator nonzero nonzero' same
    have wide := format.le_bitLength_ratioSignificand nonzero nonzero'
    have equal : format.roundRatio .nearestEven negative numerator denominator = result :=
      (format.roundRatio_isRounding_of_eq .nearestEven negative nonzero' same).unique rounding
    refine ⟨wide, fun width exponent => ?_, fun short => ?_⟩
    · rw [format.round_ratio .nearestEven negative nonzero nonzero']
      exact map_checkLength_ne_sticky
    · rw [format.round_ratio_eq_ok .nearestEven negative nonzero nonzero' short, equal]

/-- A literal below the smallest normal value, in the format of 16-bit patterns. -/
theorem decode_decimal_half :
    IsLiteral " -1_0.5E-6\t" true (21 / 2000000) ∧
      half.decode (.text " -1_0.5E-6\t") = .ok 32944 ∧
      (∃ flags, half.IsRounding .nearestEven true ((21 / 2000000 : ℚ) : ℝ) ⟨32944, flags⟩) ∧
      half.precision + 3 ≤ bitLength (half.ratioSignificand 21 2000000) := by
  have blank : ∀ char ∈ [' '], Text.isBlank char = true := by simp [Text.isBlank]
  have blank' : ∀ char ∈ ['\t'], Text.isBlank char = true := by simp [Text.isBlank]
  have whole : IsDigits ['1', '_', '0'] [1, 0] := .run (.underscore rfl (.digit rfl)) (by decide)
  have fraction : IsFraction ['.', '5'] [5] := .point (.run (.digit rfl) (by decide))
  have power : IsExponent ['E', '-', '6'] (signed true (number [6] : ℤ)) :=
    .mark (Or.inr rfl) .minus (.digit rfl) (by decide)
  have number : (number [1, 0] + number [5] / 10 ^ [5].length) *
      10 ^ signed true (number [6] : ℤ) = (21 / 2000000 : ℚ) := by
    norm_num [number, signed, Nat.ofDigits]
  have written : IsLiteral " -1_0.5E-6\t" true (21 / 2000000) := by
    rw [← number]
    exact .intro blank blank' .minus (.decimal whole fraction power (Or.inl (by decide)))
  obtain ⟨result, decoded, rounding, -, quotient⟩ := half.decode_decimal written
  obtain ⟨wide, -⟩ := quotient 21 2000000 (by decide) (by decide) (by norm_num)
  have value : half.decode (.text " -1_0.5E-6\t") = .ok 32944 := by rfl
  have pattern : result.pattern = 32944 := Except.ok.inj (decoded.symm.trans value)
  refine ⟨written, value, ⟨result.flags, ?_⟩, wide⟩
  rwa [← pattern]

end Format

end LibmAudit
