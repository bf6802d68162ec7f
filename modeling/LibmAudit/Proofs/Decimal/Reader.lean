/-
**Nothing but decimal literals is read.**

Each reader takes a part of the grammar off the front of a text. So the texts that are decoded as
decimals are those that the grammar describes, and no others.

* `Follows`: what may come after a digit in a run.
* `isRun_of_digitRun`, `isFraction_of_takeFraction`, `isExponent_of_exponentPart?`: the parts.
* `IsNumeral.of_read`: what is read as a quotient with a number is a numeral.
* `isLiteral_iff`: blanks and the case of a literal do not matter, and hide nothing.
* `Format.decodeDecimal_eq_ok_iff`, `decodeText_eq_ok_iff`: the texts that are decoded, and what
  they are decoded to.
-/

import LibmAudit.Proofs.Decimal.Literal
import LibmAudit.Proofs.Text.Normal

namespace LibmAudit

attribute [local instance (high)] instPowNat

namespace Decimal

/-! ## Digits -/

/-- What may come after a digit in a run: nothing, or a run after an optional underscore. -/
inductive Follows : List Char → List ℕ → Prop
  | nothing : Follows [] []
  | run {chars : List Char} {digits : List ℕ} (run : IsRun chars digits) : Follows chars digits
  | underscore {chars : List Char} {digits : List ℕ} (run : IsRun chars digits) :
      Follows ('_' :: chars) digits

/-- A digit and what follows it are a run. -/
theorem Follows.isRun {chars : List Char} {digits : List ℕ} (follows : Follows chars digits)
    {char : Char} {digit : ℕ} (value : Text.digitValue? char = some digit) :
    IsRun (char :: chars) (digit :: digits) := by
  cases follows with
  | nothing => exact .digit value
  | run run => exact .next value run
  | underscore run => exact .underscore value run

theorem follows_digitsAfter (chars : List Char) :
    ∃ front, chars = front ++ (digitsAfter chars).2 ∧ Follows front (digitsAfter chars).1 := by
  -- Each digit is put before the run that the rest of the text starts with.
  fun_induction digitsAfter chars with
  | case1 char rest digit value ih =>
    obtain ⟨front, split, follows⟩ := ih
    refine ⟨'_' :: char :: front, ?_, .underscore (follows.isRun value)⟩
    rw [List.cons_append, List.cons_append, ← split]
  | case2 char rest none => exact ⟨[], rfl, .nothing⟩
  | case3 char rest other digit value ih =>
    obtain ⟨front, split, follows⟩ := ih
    refine ⟨char :: front, ?_, .run (follows.isRun value)⟩
    rw [List.cons_append, ← split]
  | case4 char rest other none => exact ⟨[], rfl, .nothing⟩
  | case5 => exact ⟨[], rfl, .nothing⟩

/-- A run is read, or there is no digit. -/
theorem isRun_of_digitRun (chars : List Char) :
    ∃ front, chars = front ++ (digitRun chars).2 ∧
      (front = [] ∧ (digitRun chars).1 = [] ∨ IsRun front (digitRun chars).1) := by
  unfold digitRun
  split
  · next char rest =>
    cases value : Text.digitValue? char with
    | none => exact ⟨[], rfl, Or.inl ⟨rfl, rfl⟩⟩
    | some digit =>
      obtain ⟨front, split, follows⟩ := follows_digitsAfter rest
      refine ⟨char :: front, ?_, Or.inr (follows.isRun value)⟩
      rw [List.cons_append, ← split]
  · exact ⟨[], rfl, Or.inl ⟨rfl, rfl⟩⟩

theorem isDigits_of_digitRun {chars : List Char} (short : (digitRun chars).1.length ≤ digitLimit) :
    ∃ front, chars = front ++ (digitRun chars).2 ∧ IsDigits front (digitRun chars).1 := by
  obtain ⟨front, split, ⟨rfl, none⟩ | run⟩ := isRun_of_digitRun chars
  · rw [none]
    exact ⟨[], split, .absent⟩
  · exact ⟨front, split, .run run short⟩

/-- Digits that are there are a run. -/
theorem isRun_of_ne_nil {chars rest : List Char} {digits : List ℕ}
    (read : digitRun chars = (digits, rest)) (some : digits ≠ []) :
    ∃ front, chars = front ++ rest ∧ IsRun front digits := by
  obtain ⟨front, split, either⟩ := isRun_of_digitRun chars
  rw [read] at split either
  exact ⟨front, split, either.resolve_left fun none => some none.2⟩

/-! ## Parts -/

theorem isSign_of_takeSign (chars : List Char) :
    ∃ sign, chars = sign ++ (Text.takeSign chars).2 ∧ IsSign sign (Text.takeSign chars).1 := by
  unfold Text.takeSign
  split
  · exact ⟨['-'], rfl, .minus⟩
  · exact ⟨['+'], rfl, .plus⟩
  · exact ⟨[], rfl, .absent⟩

theorem isFraction_of_takeFraction {chars : List Char}
    (short : (takeFraction chars).1.length ≤ digitLimit) :
    ∃ front, chars = front ++ (takeFraction chars).2 ∧
      IsFraction front (takeFraction chars).1 := by
  unfold takeFraction at short ⊢
  split at short
  · next rest =>
    obtain ⟨front, split, written⟩ := isDigits_of_digitRun short
    refine ⟨'.' :: front, ?_, .point written⟩
    rw [List.cons_append, ← split]
  · exact ⟨[], rfl, .absent⟩

theorem isExponent_of_exponentOf? {mark : Char} (letter : mark = 'e' ∨ mark = 'E')
    {chars : List Char} {negative : Bool} {digits : List ℕ}
    (read : exponentOf? chars = some (negative, digits)) (short : digits.length ≤ digitLimit) :
    IsExponent (mark :: chars) (signed negative (number digits : ℤ)) := by
  obtain ⟨sign, split, first⟩ := isSign_of_takeSign chars
  unfold exponentOf? at read
  generalize Text.takeSign chars = taken at read split first
  cases whole : digitRun taken.2 with
  | mk run rest =>
    rw [whole] at read
    cases run with
    | nil => exact absurd read nofun
    | cons digit more =>
      cases rest with
      | cons char rest => exact absurd read nofun
      | nil =>
        obtain ⟨rfl, rfl⟩ := Prod.mk.inj (Option.some.inj read)
        obtain ⟨front, same, run⟩ := isRun_of_ne_nil whole (List.cons_ne_nil digit more)
        rw [split, same, List.append_nil]
        exact .mark letter first run short

theorem isExponent_of_exponentPart? {chars : List Char} {negative : Bool} {digits : List ℕ}
    (read : exponentPart? chars = some (negative, digits)) (short : digits.length ≤ digitLimit) :
    IsExponent chars (signed negative (number digits : ℤ)) := by
  unfold exponentPart? at read
  split at read
  · obtain ⟨rfl, rfl⟩ := Prod.mk.inj (Option.some.inj read)
    exact .absent
  · exact isExponent_of_exponentOf? (Or.inl rfl) read short
  · exact isExponent_of_exponentOf? (Or.inr rfl) read short
  · exact absurd read nofun

/-! ## Numerals -/

namespace IsNumeral

theorem of_decimalOfChars? {chars : List Char} {numeral : Numeral}
    (read : Numeral.decimalOfChars? chars = some numeral)
    (short : numeral.longestRun ≤ digitLimit) : ∃ value, IsNumeral chars value := by
  unfold Numeral.decimalOfChars? at read
  dsimp only at read
  split at read
  · exact absurd read nofun
  · next some =>
    obtain ⟨⟨negative, exponent⟩, part, rfl⟩ := Option.map_eq_some_iff.mp read
    obtain ⟨short, rest⟩ := max_le_iff.mp short
    obtain ⟨short', short''⟩ := max_le_iff.mp rest
    obtain ⟨before, split, whole⟩ := isDigits_of_digitRun short
    obtain ⟨after, split', fraction⟩ := isFraction_of_takeFraction short'
    have scale := isExponent_of_exponentPart? part short''
    have digit : (digitRun chars).1 ≠ [] ∨ (takeFraction (digitRun chars).2).1 ≠ [] := by
      simpa [List.isEmpty_iff, imp_iff_not_or] using some
    rw [split, split', ← List.append_assoc]
    exact ⟨_, .decimal whole fraction scale digit⟩

/-- What is read as a quotient with a number is a numeral. -/
theorem of_read {chars : List Char} {numeral : Numeral} {ratio : ℕ × ℕ}
    (read : Numeral.ofChars? chars = some numeral) (short : numeral.longestRun ≤ digitLimit)
    (quotient : numeral.ratio? = some ratio) : ∃ value, IsNumeral chars value := by
  unfold Numeral.ofChars? at read
  split at read
  · next numerator rest upper =>
    cases lower : digitRun rest with
    | mk denominator ending =>
      rw [lower] at read
      cases numerator with
      | nil => exact absurd read nofun
      | cons digit more =>
        cases denominator with
        | nil => exact absurd read nofun
        | cons digit' more' =>
          cases ending with
          | cons char ending => exact absurd read nofun
          | nil =>
            obtain rfl := Option.some.inj read
            obtain ⟨short, short'⟩ := max_le_iff.mp short
            obtain ⟨front, split, run⟩ := isRun_of_ne_nil upper (List.cons_ne_nil digit more)
            obtain ⟨front', split', run'⟩ := isRun_of_ne_nil lower (List.cons_ne_nil digit' more')
            have nonzero : number (digit' :: more') ≠ 0 := by
              intro zero
              unfold Numeral.ratio? at quotient
              dsimp only at quotient
              rw [readDigits_eq_number, if_pos zero] at quotient
              exact absurd quotient nofun
            rw [split, split', List.append_nil]
            exact ⟨_, .quotient run short run' short' nonzero⟩
  · exact of_decimalOfChars? read short

end IsNumeral

/-! ## Lower case -/

/-- Without the mark of an exponent a number has no other case. -/
theorem map_lowerChar_eq_self {chars : List Char} (numeric : ∀ char ∈ chars, Text.IsNumeric char)
    (plain : 'e' ∉ chars.map Text.lowerChar) : chars.map Text.lowerChar = chars := by
  refine (List.map_congr_left fun char member => ?_).trans (List.map_id chars)
  rcases Text.lowerChar_of_numeric (numeric char member) with rfl | same
  · exact absurd (List.mem_map_of_mem member) plain
  · exact same

theorem IsRun.ne_mark {chars : List Char} {digits : List ℕ} (run : IsRun chars digits) :
    'e' ∉ chars := by
  have digit {char : Char} {digit : ℕ} (value : Text.digitValue? char = some digit) :
      'e' ≠ char := by
    rintro rfl
    exact Option.some_ne_none _ (value.symm.trans (by decide))
  induction run with
  | digit value => exact fun member => digit value (List.mem_singleton.mp member)
  | next value _ ih => exact List.not_mem_cons_of_ne_of_not_mem (digit value) ih
  | underscore value _ ih =>
    exact List.not_mem_cons_of_ne_of_not_mem (digit value)
      (List.not_mem_cons_of_ne_of_not_mem (by decide) ih)

theorem IsDigits.ne_mark {chars : List Char} {digits : List ℕ} (written : IsDigits chars digits) :
    'e' ∉ chars := by
  cases written with
  | absent => exact List.not_mem_nil
  | run run _ => exact run.ne_mark

theorem IsFraction.ne_mark {chars : List Char} {digits : List ℕ}
    (fraction : IsFraction chars digits) : 'e' ∉ chars := by
  cases fraction with
  | absent => exact List.not_mem_nil
  | point written => exact List.not_mem_cons_of_ne_of_not_mem (by decide) written.ne_mark

theorem IsSign.ne_mark {chars : List Char} {negative : Bool} (sign : IsSign chars negative) :
    'e' ∉ chars := by
  cases sign <;> decide

/-- An exponent in lower case is one in any case. -/
theorem IsExponent.of_lowerCase {chars : List Char} {power : ℤ}
    (numeric : ∀ char ∈ chars, Text.IsNumeric char)
    (written : IsExponent (chars.map Text.lowerChar) power) : IsExponent chars power := by
  generalize same : chars.map Text.lowerChar = lowered at written
  cases written with
  | absent => exact List.map_eq_nil_iff.mp same ▸ .absent
  | mark letter first run short =>
    obtain ⟨char, rest, rfl, lower, tail⟩ := List.map_eq_cons_iff.mp same
    obtain ⟨here, others⟩ := List.forall_mem_cons.mp numeric
    have plain := map_lowerChar_eq_self others fun member => by
      rw [tail] at member
      exact (List.mem_append.mp member).elim first.ne_mark run.ne_mark
    rw [← plain, tail]
    refine .mark ?_ first run short
    rcases Text.lowerChar_of_numeric here with rfl | other
    · exact Or.inr rfl
    · rwa [← other, lower]

/-- A numeral in lower case is one in any case. -/
theorem IsNumeral.of_lowerCase {chars : List Char} {value : ℚ}
    (numeric : ∀ char ∈ chars, Text.IsNumeric char)
    (written : IsNumeral (chars.map Text.lowerChar) value) : IsNumeral chars value := by
  generalize same : chars.map Text.lowerChar = lowered at written
  cases written with
  | quotient run short run' short' nonzero =>
    have plain := map_lowerChar_eq_self numeric fun member => by
      rw [same] at member
      refine (List.mem_append.mp member).elim run.ne_mark ?_
      exact List.not_mem_cons_of_ne_of_not_mem (by decide) run'.ne_mark
    rw [← plain, same]
    exact .quotient run short run' short' nonzero
  | decimal run run' scale some =>
    -- Only the exponent has a letter, so what stands before it has no other case.
    obtain ⟨front, power, rfl, first, last⟩ := List.map_eq_append_iff.mp same
    obtain ⟨numeric, numeric'⟩ := List.forall_mem_append.mp numeric
    have plain := map_lowerChar_eq_self numeric fun member => by
      rw [first] at member
      exact (List.mem_append.mp member).elim run.ne_mark run'.ne_mark
    rw [← last] at scale
    rw [← plain, first]
    exact .decimal run run' (scale.of_lowerCase numeric') some

/-- A literal is a sign and a numeral, when its blanks are left out and it is brought to lower
case. -/
theorem isLiteral_iff {literal : String} {negative : Bool} {value : ℚ} :
    IsLiteral literal negative value ↔ ∃ sign chars, IsSign sign negative ∧
      IsNumeral chars value ∧
        (Text.lowerCase (Text.strip literal)).toList = sign ++ chars := by
  refine ⟨IsLiteral.normal, ?_⟩
  rintro ⟨sign, chars, first, numeral, normal⟩
  rw [Text.lowerCase, Text.strip, String.toList_ofList, String.toList_ofList] at normal
  have numeric : ∀ char ∈ Text.stripChars literal.toList, Text.IsNumeric char := by
    refine Text.isNumeric_of_lowerFrom [] ?_
    rw [normal]
    exact List.forall_mem_append.mpr ⟨first.isNumeric, numeral.isNumeric⟩
  rw [Text.lowerFrom_of_numeric [] numeric] at normal
  obtain ⟨sign', chars', split, sign, same⟩ := List.map_eq_append_iff.mp normal
  rw [split] at numeric
  obtain ⟨numeric, numeric'⟩ := List.forall_mem_append.mp numeric
  have plain := map_lowerChar_eq_self numeric (sign ▸ first.ne_mark)
  rw [← same] at numeral
  rw [← sign, plain] at first
  obtain ⟨before, after, blank, blank', whole⟩ := Text.exists_stripChars literal.toList
  rw [← String.ofList_toList (s := literal), whole, split]
  exact .intro blank blank' first (numeral.of_lowerCase numeric')

end Decimal

namespace Format

open Decimal

variable (format : Format)

/-- Just the numerals after an optional sign are decoded as decimals, each to its number, rounded to
nearest even. -/
theorem decodeDecimal_eq_ok_iff {text : String} {pattern : ℕ} :
    format.decodeDecimal text = .ok pattern ↔
      ∃ sign chars negative value flags, IsSign sign negative ∧ IsNumeral chars value ∧
        text.toList = sign ++ chars ∧
          format.IsRounding .nearestEven negative value ⟨pattern, flags⟩ := by
  constructor
  · intro decoded
    obtain ⟨sign, split, first⟩ := isSign_of_takeSign text.toList
    have numeral : ∃ value, IsNumeral (Text.takeSign text.toList).2 value := by
      unfold decodeDecimal at decoded
      dsimp only at decoded
      split at decoded
      · next numeral read =>
        split at decoded
        · exact absurd decoded nofun
        · next short =>
          split at decoded
          · next quotient => exact IsNumeral.of_read read (not_lt.mp short) quotient
          · exact absurd decoded nofun
      · exact absurd decoded nofun
    obtain ⟨value, numeral⟩ := numeral
    obtain ⟨result, same, rounding⟩ := format.decodeDecimal_of_numeral first numeral split
    rw [Except.ok.inj (decoded.symm.trans same)]
    exact ⟨sign, _, _, value, result.flags, first, numeral, split, rounding⟩
  · rintro ⟨sign, chars, negative, value, flags, first, numeral, split, rounding⟩
    obtain ⟨result, same, rounding'⟩ := format.decodeDecimal_of_numeral first numeral split
    rw [same, rounding'.unique rounding]

/-- Just the decimal literals are decoded besides names and hexadecimal literals. -/
theorem decodeText_eq_ok_iff {literal : String} {pattern : ℕ}
    (named : format.decodeName? (Text.lowerCase (Text.strip literal)) = none)
    (hexadecimal : HexParts.ofChars? (Text.lowerCase (Text.strip literal)).toList = none) :
    format.decodeText literal = .ok pattern ↔
      ∃ negative value flags, IsLiteral literal negative value ∧
        format.IsRounding .nearestEven negative value ⟨pattern, flags⟩ := by
  unfold decodeText
  dsimp only
  rw [named, hexadecimal]
  dsimp only
  rw [decodeDecimal_eq_ok_iff]
  constructor
  · rintro ⟨sign, chars, negative, value, flags, first, numeral, normal, rounding⟩
    exact ⟨negative, value, flags, isLiteral_iff.mpr ⟨sign, chars, first, numeral, normal⟩,
      rounding⟩
  · rintro ⟨negative, value, flags, written, rounding⟩
    obtain ⟨sign, chars, first, numeral, normal⟩ := isLiteral_iff.mp written
    exact ⟨sign, chars, negative, value, flags, first, numeral, normal, rounding⟩

end Format

end LibmAudit
