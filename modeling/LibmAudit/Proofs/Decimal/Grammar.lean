/-
**The grammar of decimal numerals.**

What a numeral is and which number it writes, apart from how it is read.

* `IsRun`, `IsDigits`, `IsFraction`, `IsExponent`: the parts of a numeral, with the digits or the
  number that they write.
* `IsNumeral`: a quotient of two integers, or a decimal.
* `IsNumeral.read`: each numeral is read, as a quotient with its number.
* `IsNumeral.lowerCase`: the case of a numeral does not matter.
-/

import LibmAudit.Decimal.Numeral
import LibmAudit.Fault
import LibmAudit.Proofs.Text.Digits
import LibmAudit.Proofs.Text.Numeric
import LibmAudit.Proofs.Value

namespace LibmAudit.Decimal

attribute [local instance (high)] instPowNat

/-- The number that digits write, the first one the most significant. -/
def number (digits : List ℕ) : ℕ := Nat.ofDigits 10 digits.reverse

/-- A digit, and digits after it that each may follow one underscore. -/
inductive IsRun : List Char → List ℕ → Prop
  | digit {char : Char} {digit : ℕ} (value : Text.digitValue? char = some digit) :
      IsRun [char] [digit]
  | next {char : Char} {digit : ℕ} {chars : List Char} {digits : List ℕ}
      (value : Text.digitValue? char = some digit) (rest : IsRun chars digits) :
      IsRun (char :: chars) (digit :: digits)
  | underscore {char : Char} {digit : ℕ} {chars : List Char} {digits : List ℕ}
      (value : Text.digitValue? char = some digit) (rest : IsRun chars digits) :
      IsRun (char :: '_' :: chars) (digit :: digits)

/-- An optional run of digits, few enough to be read. -/
inductive IsDigits : List Char → List ℕ → Prop
  | absent : IsDigits [] []
  | run {chars : List Char} {digits : List ℕ} (run : IsRun chars digits)
      (short : digits.length ≤ digitLimit) : IsDigits chars digits

/-- An optional point, with or without digits after it. -/
inductive IsFraction : List Char → List ℕ → Prop
  | absent : IsFraction [] []
  | point {chars : List Char} {digits : List ℕ} (rest : IsDigits chars digits) :
      IsFraction ('.' :: chars) digits

/-- An optional sign, and whether it is a minus. -/
inductive IsSign : List Char → Bool → Prop
  | absent : IsSign [] false
  | plus : IsSign ['+'] false
  | minus : IsSign ['-'] true

/-- An optional exponent. -/
inductive IsExponent : List Char → ℤ → Prop
  | absent : IsExponent [] 0
  | mark {mark : Char} {sign chars : List Char} {negative : Bool} {digits : List ℕ}
      (letter : mark = 'e' ∨ mark = 'E') (first : IsSign sign negative) (run : IsRun chars digits)
      (short : digits.length ≤ digitLimit) :
      IsExponent (mark :: (sign ++ chars)) (signed negative (number digits : ℤ))

/-- A numeral without a sign: a quotient of two integers, or a decimal with a digit before or right
after the point. -/
inductive IsNumeral : List Char → ℚ → Prop
  | quotient {upper lower : List Char} {numerator denominator : List ℕ}
      (run : IsRun upper numerator) (short : numerator.length ≤ digitLimit)
      (run' : IsRun lower denominator) (short' : denominator.length ≤ digitLimit)
      (nonzero : number denominator ≠ 0) :
      IsNumeral (upper ++ '/' :: lower) (number numerator / number denominator)
  | decimal {before after power : List Char} {whole fraction : List ℕ} {exponent : ℤ}
      (run : IsDigits before whole) (run' : IsFraction after fraction)
      (scale : IsExponent power exponent) (some : whole ≠ [] ∨ fraction ≠ []) :
      IsNumeral (before ++ after ++ power)
        ((number whole + number fraction / 10 ^ fraction.length) * 10 ^ exponent)

/-! ## Digits -/

theorem readDigits_eq_number (digits : List ℕ) : Text.readDigits 10 digits = number digits :=
  Text.readDigits_eq_ofDigits 10 digits

/-- No digit is left out at the start of a text. -/
def Stops (rest : List Char) : Prop :=
  ∀ char ∈ rest.head?, Text.digitValue? char = none ∧ char ≠ '_'

theorem stops_nil : Stops [] := by
  rintro _ ⟨⟩

theorem digitsAfter_of_stops {rest : List Char} (stops : Stops rest) :
    digitsAfter rest = ([], rest) := by
  cases rest with
  | nil => rfl
  | cons char tail =>
    obtain ⟨other, distinct⟩ := stops char rfl
    unfold digitsAfter
    split
    · next same => exact absurd (List.cons.inj same).1 distinct
    · next same =>
      obtain ⟨rfl, rfl⟩ := List.cons.inj same
      rw [other]
    · next same => exact absurd same nofun

theorem digitsAfter_cons {char : Char} {digit : ℕ} (value : Text.digitValue? char = some digit)
    (rest : List Char) :
    digitsAfter (char :: rest) = (digit :: (digitsAfter rest).1, (digitsAfter rest).2) := by
  have distinct : char ≠ '_' := by
    rintro rfl
    exact Option.some_ne_none _ (value.symm.trans (by decide))
  conv_lhs => unfold digitsAfter
  split
  · next same => exact absurd (List.cons.inj same).1 distinct
  · next same =>
    obtain ⟨rfl, rfl⟩ := List.cons.inj same
    rw [value]
  · next same => exact absurd same nofun

theorem digitsAfter_underscore {char : Char} {digit : ℕ}
    (value : Text.digitValue? char = some digit) (rest : List Char) :
    digitsAfter ('_' :: char :: rest) = digitsAfter (char :: rest) := by
  rw [digitsAfter_cons value, digitsAfter, value]

namespace IsRun

variable {chars : List Char} {digits : List ℕ}

/-- A run starts with a digit. -/
theorem exists_cons (run : IsRun chars digits) :
    ∃ char rest digit more, chars = char :: rest ∧ digits = digit :: more ∧
      Text.digitValue? char = some digit := by
  cases run with
  | digit value => exact ⟨_, _, _, _, rfl, rfl, value⟩
  | next value _ => exact ⟨_, _, _, _, rfl, rfl, value⟩
  | underscore value _ => exact ⟨_, _, _, _, rfl, rfl, value⟩

theorem digitsAfter_append (run : IsRun chars digits) {rest : List Char} (stops : Stops rest) :
    digitsAfter (chars ++ rest) = (digits, rest) := by
  induction run with
  | digit value =>
    rw [List.singleton_append, digitsAfter_cons value, digitsAfter_of_stops stops]
  | next value _ ih => rw [List.cons_append, digitsAfter_cons value, ih]
  | underscore value run ih =>
    obtain ⟨first, tail, digit, more, rfl, rfl, value'⟩ := run.exists_cons
    rw [List.cons_append, List.cons_append, digitsAfter_cons value, List.cons_append,
      digitsAfter_underscore value', ← List.cons_append, ih]

/-- A run is read up to its end. -/
theorem digitRun_append (run : IsRun chars digits) {rest : List Char} (stops : Stops rest) :
    digitRun (chars ++ rest) = (digits, rest) := by
  have read := run.digitsAfter_append stops
  obtain ⟨first, tail, digit, more, rfl, rfl, value⟩ := run.exists_cons
  rw [List.cons_append, digitsAfter_cons value] at read
  rw [List.cons_append, digitRun, value]
  exact read

theorem digitRun_eq (run : IsRun chars digits) : digitRun chars = (digits, []) := by
  have read := run.digitRun_append stops_nil
  rwa [List.append_nil] at read

theorem isNumeric (run : IsRun chars digits) : ∀ char ∈ chars, Text.IsNumeric char := by
  induction run with
  | digit value => simp [Text.IsNumeric, value]
  | next value _ ih => simpa [Text.IsNumeric, value] using ih
  | underscore value _ ih => simpa [Text.IsNumeric, value] using ih

theorem map_lowerChar (run : IsRun chars digits) : chars.map Text.lowerChar = chars := by
  induction run with
  | digit value => rw [List.map_singleton, Text.lowerChar_of_digit value]
  | next value _ ih => rw [List.map_cons, Text.lowerChar_of_digit value, ih]
  | underscore value _ ih =>
    rw [List.map_cons, List.map_cons, Text.lowerChar_of_digit value, ih]
    rfl

end IsRun

/-! ## Parts -/

theorem stops_cons {char : Char} {rest : List Char} (value : Text.digitValue? char = none)
    (distinct : char ≠ '_') : Stops (char :: rest) := by
  rintro _ ⟨rfl⟩
  exact ⟨value, distinct⟩

namespace IsDigits

variable {chars : List Char} {digits : List ℕ}

theorem length_le (written : IsDigits chars digits) : digits.length ≤ digitLimit := by
  cases written with
  | absent => exact Nat.zero_le _
  | run _ short => exact short

theorem digitRun_append (written : IsDigits chars digits) {rest : List Char} (stops : Stops rest) :
    digitRun (chars ++ rest) = (digits, rest) := by
  cases written with
  | absent =>
    cases rest with
    | nil => rfl
    | cons char tail => rw [List.nil_append, digitRun, (stops char rfl).1]
  | run run _ => exact run.digitRun_append stops

theorem isNumeric (written : IsDigits chars digits) : ∀ char ∈ chars, Text.IsNumeric char := by
  cases written with
  | absent => exact fun _ member => absurd member List.not_mem_nil
  | run run _ => exact run.isNumeric

theorem map_lowerChar (written : IsDigits chars digits) :
    chars.map Text.lowerChar = chars := by
  cases written with
  | absent => rfl
  | run run _ => exact run.map_lowerChar

end IsDigits

namespace IsSign

variable {chars : List Char} {negative : Bool}

/-- A sign is read before a character that is none. -/
theorem takeSign_append (sign : IsSign chars negative) {rest : List Char}
    (other : ∀ char ∈ rest.head?, char ≠ '-' ∧ char ≠ '+') :
    Text.takeSign (chars ++ rest) = (negative, rest) := by
  cases sign with
  | plus => rfl
  | minus => rfl
  | absent =>
    rw [List.nil_append]
    unfold Text.takeSign
    split
    · exact absurd rfl (other '-' rfl).1
    · exact absurd rfl (other '+' rfl).2
    · rfl

theorem isNumeric (sign : IsSign chars negative) : ∀ char ∈ chars, Text.IsNumeric char := by
  cases sign <;> simp [Text.IsNumeric]

theorem map_lowerChar (sign : IsSign chars negative) : chars.map Text.lowerChar = chars := by
  cases sign <;> rfl

end IsSign

/-- A digit is no sign. -/
theorem IsRun.head_ne_sign {chars : List Char} {digits : List ℕ} (run : IsRun chars digits) :
    ∀ char ∈ chars.head?, char ≠ '-' ∧ char ≠ '+' := by
  obtain ⟨first, rest, digit, -, rfl, -, value⟩ := run.exists_cons
  rintro _ ⟨rfl⟩
  constructor <;> rintro rfl <;> exact Option.some_ne_none _ (value.symm.trans (by decide))

namespace IsExponent

variable {chars : List Char} {power : ℤ}

/-- An exponent starts with its mark. -/
theorem head_mem (exponent : IsExponent chars power) :
    ∀ char ∈ chars.head?, char = 'e' ∨ char = 'E' := by
  cases exponent with
  | absent => exact fun _ member => absurd member nofun
  | mark letter _ _ _ =>
    rintro _ ⟨rfl⟩
    exact letter

theorem stops (exponent : IsExponent chars power) : Stops chars := by
  intro char member
  rcases exponent.head_mem char member with rfl | rfl <;> decide

/-- An exponent is read as a sign and digits. -/
theorem exponentPart?_eq (exponent : IsExponent chars power) : ∃ negative digits,
    exponentPart? chars = some (negative, digits) ∧ digits.length ≤ digitLimit ∧
      signed negative (number digits : ℤ) = power := by
  cases exponent with
  | absent => exact ⟨false, [], rfl, Nat.zero_le _, rfl⟩
  | @mark letter sign chars negative digits kind first run short =>
    refine ⟨negative, digits, ?_, short, rfl⟩
    have read : exponentOf? (sign ++ chars) = some (negative, digits) := by
      unfold exponentOf?
      rw [first.takeSign_append run.head_ne_sign, run.digitRun_eq]
      obtain ⟨-, -, digit, more, -, rfl, -⟩ := run.exists_cons
      rfl
    rcases kind with rfl | rfl <;> exact read

theorem isNumeric (exponent : IsExponent chars power) : ∀ char ∈ chars, Text.IsNumeric char := by
  cases exponent with
  | absent => exact fun _ member => absurd member List.not_mem_nil
  | mark letter first run _ =>
    intro char member
    rcases List.mem_cons.mp member with rfl | member
    · rcases letter with rfl | rfl <;> simp [Text.IsNumeric]
    · exact (List.mem_append.mp member).elim (first.isNumeric char) (run.isNumeric char)

theorem lowerCase (exponent : IsExponent chars power) :
    IsExponent (chars.map Text.lowerChar) power := by
  cases exponent with
  | absent => exact .absent
  | mark letter first run short =>
    rw [List.map_cons, List.map_append, first.map_lowerChar, run.map_lowerChar]
    refine .mark (Or.inl ?_) first run short
    rcases letter with rfl | rfl <;> decide

end IsExponent

namespace IsFraction

variable {chars : List Char} {digits : List ℕ}

theorem length_le (fraction : IsFraction chars digits) : digits.length ≤ digitLimit := by
  cases fraction with
  | absent => exact Nat.zero_le _
  | point rest => exact rest.length_le

/-- What follows the digits before the point is no digit. -/
theorem stops_append (fraction : IsFraction chars digits) {rest : List Char} (stops : Stops rest) :
    Stops (chars ++ rest) := by
  cases fraction with
  | absent => exact stops
  | point _ => exact stops_cons (by decide) (by decide)

theorem takeFraction_append (fraction : IsFraction chars digits) {rest : List Char}
    (stops : Stops rest) (other : ∀ char ∈ rest.head?, char ≠ '.') :
    takeFraction (chars ++ rest) = (digits, rest) := by
  cases fraction with
  | point run => exact run.digitRun_append stops
  | absent =>
    rw [List.nil_append]
    unfold takeFraction
    split
    · exact absurd rfl (other '.' rfl)
    · rfl

theorem isNumeric (fraction : IsFraction chars digits) :
    ∀ char ∈ chars, Text.IsNumeric char := by
  cases fraction with
  | absent => exact fun _ member => absurd member List.not_mem_nil
  | point rest =>
    intro char member
    rcases List.mem_cons.mp member with rfl | member
    · simp [Text.IsNumeric]
    · exact rest.isNumeric char member

theorem map_lowerChar (fraction : IsFraction chars digits) :
    chars.map Text.lowerChar = chars := by
  cases fraction with
  | absent => rfl
  | point rest =>
    rw [List.map_cons, rest.map_lowerChar]
    rfl

end IsFraction

/-! ## Numerals -/

namespace IsNumeral

variable {chars : List Char} {value : ℚ}

theorem scaled_eq (whole fraction : List ℕ) (negative : Bool) (exponent : List ℕ) :
    Numeral.scaled whole fraction negative exponent =
      (number whole * 10 ^ fraction.length + number fraction,
        signed negative (number exponent : ℤ) - fraction.length) := by
  unfold Numeral.scaled
  rw [Text.readDigits_append]
  simp only [readDigits_eq_number]
  rfl

/-- The digits of a decimal and a power of ten are a quotient with its number. -/
theorem ratio_decimal (whole fraction : List ℕ) (negative : Bool) (exponent : List ℕ) :
    ∃ numerator denominator,
      (Numeral.decimal whole fraction negative exponent).ratio? = some (numerator, denominator) ∧
        denominator ≠ 0 ∧ (numerator / denominator : ℚ) =
          (number whole + number fraction / 10 ^ fraction.length) *
            10 ^ signed negative (number exponent : ℤ) := by
  have ratio : (Numeral.decimal whole fraction negative exponent).ratio? =
      some ((Numeral.scaled whole fraction negative exponent).1 *
        10 ^ (Numeral.scaled whole fraction negative exponent).2.toNat,
        10 ^ (-(Numeral.scaled whole fraction negative exponent).2).toNat) := rfl
  rw [scaled_eq] at ratio
  refine ⟨_, _, ratio, (Nat.pow_pos (by decide)).ne', ?_⟩
  dsimp only
  generalize signed negative (number exponent : ℤ) = shift
  generalize fraction.length = length
  have split : shift = (shift - length).toNat - (-(shift - length)).toNat + length := by omega
  conv_rhs => rw [split]
  rw [zpow_add₀ (by norm_num), zpow_sub₀ (by norm_num), zpow_natCast, zpow_natCast, zpow_natCast]
  push_cast
  field_simp

/-- What follows the digits before the point is no quotient. -/
theorem append_ne_slash {after power : List Char} {digits : List ℕ} {exponent : ℤ}
    (fraction : IsFraction after digits) (scale : IsExponent power exponent) (rest : List Char) :
    after ++ power ≠ '/' :: rest := by
  cases fraction with
  | point _ => exact fun same => absurd (List.cons.inj same).1 (by decide)
  | absent =>
    rintro rfl
    rcases scale.head_mem '/' rfl with same | same <;> exact absurd same (by decide)

/-- Each numeral is read, as a quotient with its number. -/
theorem read (written : IsNumeral chars value) : ∃ numeral numerator denominator,
    Numeral.ofChars? chars = some numeral ∧ numeral.longestRun ≤ digitLimit ∧
      numeral.ratio? = some (numerator, denominator) ∧ denominator ≠ 0 ∧
        (numerator / denominator : ℚ) = value := by
  cases written with
  | @quotient upper lower numerator denominator run short run' short' nonzero =>
    refine ⟨.quotient numerator denominator, number numerator, number denominator, ?_,
      max_le short short', ?_, nonzero, rfl⟩
    · obtain ⟨-, -, digit, more, -, rfl, -⟩ := run.exists_cons
      obtain ⟨-, -, digit', more', -, rfl, -⟩ := run'.exists_cons
      unfold Numeral.ofChars?
      rw [run.digitRun_append (stops_cons (by decide) (by decide))]
      simp only [run'.digitRun_eq]
    · unfold Numeral.ratio?
      dsimp only
      rw [readDigits_eq_number, readDigits_eq_number, if_neg nonzero]
  | @decimal before after power whole fraction exponent run run' scale some =>
    obtain ⟨negative, digits, part, short, rfl⟩ := scale.exponentPart?_eq
    obtain ⟨numerator, denominator, ratio, nonzero, same⟩ :=
      ratio_decimal whole fraction negative digits
    refine ⟨.decimal whole fraction negative digits, numerator, denominator, ?_,
      max_le run.length_le (max_le run'.length_le short), ratio, nonzero, same⟩
    have first := run.digitRun_append (run'.stops_append scale.stops)
    have second := run'.takeFraction_append scale.stops fun char member => by
      rcases scale.head_mem char member with rfl | rfl <;> decide
    have digit : ¬ (whole.isEmpty && fraction.isEmpty) = true := by
      simpa [List.isEmpty_iff, imp_iff_not_or] using some
    rw [← List.append_assoc] at first
    unfold Numeral.ofChars?
    rw [first]
    split
    · next same => exact absurd (Prod.mk.inj same).2 (append_ne_slash run' scale _)
    · unfold Numeral.decimalOfChars?
      simp only [first, second, part, if_neg digit, Option.map_some]

theorem isNumeric (written : IsNumeral chars value) : ∀ char ∈ chars, Text.IsNumeric char := by
  intro char member
  cases written with
  | quotient run _ run' _ _ =>
    rcases List.mem_append.mp member with member | member
    · exact run.isNumeric char member
    · rcases List.mem_cons.mp member with rfl | member
      · simp [Text.IsNumeric]
      · exact run'.isNumeric char member
  | decimal run run' scale _ =>
    rcases List.mem_append.mp member with member | member
    · exact (List.mem_append.mp member).elim (run.isNumeric char) (run'.isNumeric char)
    · exact scale.isNumeric char member

/-- The case of a numeral does not matter. -/
theorem lowerCase (written : IsNumeral chars value) :
    IsNumeral (chars.map Text.lowerChar) value := by
  cases written with
  | quotient run short run' short' nonzero =>
    rw [List.map_append, List.map_cons, run.map_lowerChar, run'.map_lowerChar]
    exact .quotient run short run' short' nonzero
  | decimal run run' scale some =>
    rw [List.map_append, List.map_append, run.map_lowerChar, run'.map_lowerChar]
    exact .decimal run run' scale.lowerCase some

/-- A numeral starts with a digit or a point, not with a sign. -/
theorem head_ne_sign (written : IsNumeral chars value) :
    ∀ char ∈ chars.head?, char ≠ '-' ∧ char ≠ '+' := by
  cases written with
  | quotient run _ _ _ _ =>
    obtain ⟨first, rest, -, -, rfl, -, -⟩ := run.exists_cons
    exact run.head_ne_sign
  | decimal run run' _ some =>
    cases run with
    | run run _ =>
      obtain ⟨first, rest, -, -, rfl, -, -⟩ := run.exists_cons
      exact run.head_ne_sign
    | absent =>
      cases run' with
      | absent => simp at some
      | point _ =>
        rintro _ ⟨rfl⟩
        decide

end IsNumeral

end LibmAudit.Decimal
