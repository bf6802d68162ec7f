/-
**What a literal of a float slot is decoded to.**

* `Value.IsSound`: the patterns in a value fit their formats.
* `HexParts.IsOversized`, `Format.IsOversized`: literals that need an integer with too many digits
  to be read or shown, or more bits than can be stored.
* `Format.decodeHex_outcome`, `decodeExact_outcome`, `decodeText_outcome`: the kinds of literals.
* `Format.decode_outcome`: a literal is decoded to a pattern that fits, or refused as a literal,
  unless it is oversized.
-/

import LibmAudit.Proofs.Decimal.Literal
import LibmAudit.Proofs.Literal.Range
import LibmAudit.Proofs.Text.Shortest

namespace LibmAudit

attribute [local instance (high)] instPowNat

namespace Value

mutual
/-- The patterns in a value fit their formats, as those of machine numbers do. -/
def IsSound : Value → Prop
  | number pattern => pattern < 2 ^ Format.double.totalBits
  | scalar carrier pattern => pattern < 2 ^ carrier.format.totalBits
  | tuple items => AllSound items
  | _ => True

/-- The patterns in several values fit their formats. -/
def AllSound : List Value → Prop
  | [] => True
  | item :: rest => IsSound item ∧ AllSound rest
end

end Value

/-! ## Oversized literals -/

namespace HexParts

variable (parts : HexParts)

/-- The digits of a hexadecimal literal as an integer. -/
def significand : ℕ := readHex (parts.whole ++ parts.fraction)

/-- The exponent of its last digit. -/
def lastPlace : ℤ :=
  signed parts.exponentNegative (Text.readDecimal parts.exponent : ℤ) - 4 * parts.fraction.length

/-- A hexadecimal literal has an exponent with too many digits to be read, or so many bits below the
last place of the format that they cannot be stored. -/
def IsOversized (format : Format) : Prop :=
  (parts.whole ≠ [] ∨ parts.fraction ≠ []) ∧
    (digitLimit < parts.exponent.length ∨
      parts.significand ≠ 0 ∧ storageLimit ≤
        format.placeFor parts.significand parts.lastPlace - parts.lastPlace)

end HexParts

/-- The text of a plain number is no hexadecimal literal. -/
theorem HexParts.ofChars?_plainNumberText (pattern : ℕ) :
    HexParts.ofChars? (Text.lowerCase (Text.strip (plainNumberText pattern))).toList = none := by
  have all := Decimal.IsNumberText.plainNumberText pattern
  have plain : ∀ char ∈ (plainNumberText pattern).toList, Text.isPlain char = true :=
    fun char member => (isPlain_of_mem_numberChars (all char member)).1
  rw [Text.strip_of_plain plain, Text.lowerCase_of_plain plain]
  exact HexParts.ofChars?_eq_none fun member =>
    (isPlain_of_mem_numberChars (all 'x' member)).2 rfl

namespace Format

/-- A literal is a hexadecimal text that is oversized, an inexact integer with too many digits to be
shown, or a tuple that shows such an integer. -/
def IsOversized (format : Format) : Value → Prop
  | .text literal => ∃ parts,
      HexParts.ofChars? (Text.lowerCase (Text.strip literal)).toList = some parts ∧
        parts.IsOversized format
  | .int value => 10 ^ digitLimit ≤ value.natAbs ∧ ((value : ℝ) : EReal) ∉ format.values
  | .tuple items => ∃ value ∈ Value.integersOf items, 10 ^ digitLimit ≤ value.natAbs
  | _ => False

/-- Decoding gives a pattern that fits the format, or refuses the literal. Oversized literals, and
only these, are refused in another way. -/
inductive Settles (format : Format) (oversized : Prop) : Except Fault ℕ → Prop
  | ok {pattern : ℕ} (fits : pattern < 2 ^ format.totalBits) (small : ¬ oversized) :
      Settles format oversized (.ok pattern)
  | error {fault : Fault} (reason : fault.category = .literal ↔ ¬ oversized) :
      Settles format oversized (.error fault)

variable (format : Format)

/-! ## Texts -/

/-- A hexadecimal literal with digits and a short exponent is rounded and must be exact. -/
theorem decodeHex_eq {parts : HexParts} (digits : parts.whole ≠ [] ∨ parts.fraction ≠ [])
    (short : parts.exponent.length ≤ digitLimit) (literal : String) :
    format.decodeHex parts literal =
      (format.round .nearestEven parts.negative parts.significand parts.lastPlace false).bind
        fun rounded =>
          if (rounded.flags.inexact || rounded.flags.overflow) = true then
            .error (.hexadecimalInexact literal format.exponentBits format.totalBits)
          else .ok rounded.pattern := by
  have some : ¬ (parts.whole.isEmpty && parts.fraction.isEmpty) = true := by
    simpa [List.isEmpty_iff, imp_iff_not_or] using digits
  have read : readExponent parts.exponentNegative parts.exponent =
      .ok (signed parts.exponentNegative (Text.readDecimal parts.exponent : ℤ)) :=
    if_neg (not_lt.mpr short)
  unfold decodeHex
  rw [if_neg some, read]
  rfl

/-- A hexadecimal literal is decoded or refused as inexact, unless it is oversized. -/
theorem decodeHex_outcome (parts : HexParts) (literal : String) :
    format.Settles (parts.IsOversized format) (format.decodeHex parts literal) := by
  by_cases digits : parts.whole ≠ [] ∨ parts.fraction ≠ []
  · by_cases short : parts.exponent.length ≤ digitLimit
    · have oversized : parts.IsOversized format ↔ parts.significand ≠ 0 ∧ storageLimit ≤
          format.placeFor parts.significand parts.lastPlace - parts.lastPlace := by
        rw [HexParts.IsOversized, and_iff_right digits, or_iff_right (not_lt.mpr short)]
      have outcome := format.round_outcome .nearestEven parts.negative parts.significand
        parts.lastPlace
      rw [format.decodeHex_eq digits short, oversized]
      cases rounded : format.round .nearestEven parts.negative parts.significand parts.lastPlace
        false with
      | ok result =>
        rw [rounded] at outcome
        obtain ⟨rounding, stored⟩ := outcome
        have apart : ¬ (parts.significand ≠ 0 ∧ storageLimit ≤
            format.placeFor parts.significand parts.lastPlace - parts.lastPlace) := by
          rw [not_and_or, not_not, not_le]
          exact stored
        rw [Except.bind]
        by_cases raised : (result.flags.inexact || result.flags.overflow) = true
        · rw [if_pos raised]
          exact .error (iff_of_true rfl apart)
        · rw [if_neg raised]
          exact .ok rounding.fits apart
      | error fault =>
        rw [rounded] at outcome
        obtain ⟨refused, beyond⟩ := outcome
        refine .error (iff_of_false ?_ (not_not.mpr beyond))
        rcases refused with rfl | rfl <;> decide
    · have long := not_le.mp short
      have some : ¬ (parts.whole.isEmpty && parts.fraction.isEmpty) = true := by
        simpa [List.isEmpty_iff, imp_iff_not_or] using digits
      have refused : format.decodeHex parts literal =
          .error (.digitsTooLongToRead parts.exponent.length) := by
        unfold decodeHex readExponent
        rw [if_neg some, if_pos long]
        rfl
      rw [refused]
      exact .error (iff_of_false Category.noConfusion (not_not.mpr ⟨digits, Or.inl long⟩))
  · have empty : (parts.whole.isEmpty && parts.fraction.isEmpty) = true := by
      simpa [List.isEmpty_iff] using digits
    have refused : format.decodeHex parts literal = .error (.hexadecimalEmpty literal) := by
      unfold decodeHex
      rw [if_pos empty]
      rfl
    rw [refused]
    exact .error (iff_of_true rfl fun oversized => digits oversized.1)

theorem ratio?_denominator_ne_zero {numeral : Decimal.Numeral} {numerator denominator : ℕ}
    (ratio : numeral.ratio? = some (numerator, denominator)) : denominator ≠ 0 := by
  unfold Decimal.Numeral.ratio? at ratio
  split at ratio
  · obtain ⟨-, rfl⟩ := Prod.mk.inj (Option.some.inj ratio)
    exact (Nat.pow_pos (by decide)).ne'
  · split at ratio
    · exact absurd ratio nofun
    · next nonzero =>
      obtain ⟨-, rfl⟩ := Prod.mk.inj (Option.some.inj ratio)
      exact nonzero

/-- A decimal literal is decoded or refused. -/
theorem decodeDecimal_outcome (text : String) :
    match format.decodeDecimal text with
    | .ok pattern => pattern < 2 ^ format.totalBits
    | .error fault => fault.category = .literal := by
  unfold decodeDecimal
  dsimp only
  cases Decimal.Numeral.ofChars? (Text.takeSign text.toList).2 with
  | none => rfl
  | some numeral =>
    dsimp only
    by_cases long : digitLimit < numeral.longestRun
    · rw [if_pos long]
      rfl
    · rw [if_neg long]
      cases ratio : numeral.ratio? with
      | none => rfl
      | some quotient =>
        exact (format.roundRatio_isRounding .nearestEven _ (ratio?_denominator_ne_zero ratio)).fits

/-- A name is no hexadecimal literal, and its pattern fits. -/
theorem decodeName?_eq_some {text : String} {pattern : ℕ}
    (named : format.decodeName? text = some pattern) :
    pattern < 2 ^ format.totalBits ∧ HexParts.ofChars? text.toList = none := by
  unfold decodeName? at named
  unfold HexParts.ofChars?
  dsimp only at named ⊢
  generalize Text.takeSign text.toList = signed at named ⊢
  have letters {name : String} (same : String.ofList signed.2 = name) :
      signed.2 = name.toList := by
    rw [← same, String.toList_ofList]
  split at named
  · next same =>
    obtain rfl := Option.some.inj named
    rw [letters same]
    exact ⟨format.quietNaN_lt _, rfl⟩
  · split at named
    · next same =>
      obtain rfl := Option.some.inj named
      refine ⟨format.infinity_lt _, ?_⟩
      rcases same with same | same <;> (rw [letters same]; rfl)
    · exact absurd named nofun

/-- A text is decoded or refused as a literal, unless it is oversized. -/
theorem decodeText_outcome (literal : String) :
    format.Settles (format.IsOversized (.text literal)) (format.decodeText literal) := by
  unfold decodeText IsOversized
  dsimp only
  generalize Text.lowerCase (Text.strip literal) = text
  cases named : format.decodeName? text with
  | some pattern =>
    obtain ⟨fits, other⟩ := format.decodeName?_eq_some named
    rw [other]
    exact .ok fits fun ⟨_, same, _⟩ => absurd same nofun
  | none =>
    cases hexadecimal : HexParts.ofChars? text.toList with
    | some parts =>
      have outcome := format.decodeHex_outcome parts literal
      have only : (∃ other, some parts = some other ∧ other.IsOversized format) ↔
          parts.IsOversized format := by simp
      rw [only]
      exact outcome
    | none =>
      have outcome := format.decodeDecimal_outcome text
      have never : ¬ ∃ parts, (none : Option HexParts) = some parts ∧ parts.IsOversized format :=
        fun ⟨_, same, _⟩ => absurd same nofun
      dsimp only
      cases decoded : format.decodeDecimal text with
      | ok pattern =>
        rw [decoded] at outcome
        exact .ok outcome never
      | error fault =>
        rw [decoded] at outcome
        exact .error (iff_of_true outcome never)

/-! ## Refusals -/

/-- A refusal stays a refusal of the literal just if all integers can be shown. -/
theorem category_refuse (fault : Fault) (literal : fault.category = .literal) :
    (if fault.integers.all isWritable then fault else .integerTooLongToWrite).category = .literal ↔
      ¬ ∃ value ∈ fault.integers, 10 ^ digitLimit ≤ value.natAbs := by
  have writable : fault.integers.all isWritable = true ↔
      ¬ ∃ value ∈ fault.integers, 10 ^ digitLimit ≤ value.natAbs := by
    rw [List.all_eq_true]
    push Not
    refine forall₂_congr fun value _ => ?_
    rw [isWritable, decide_eq_true_eq]
  split
  · next shown => exact iff_of_true literal (writable.mp shown)
  · next hidden => exact iff_of_false Category.noConfusion (mt writable.mpr hidden)

/-- An integer that is no value of the format is refused, as a literal if it can be shown. -/
theorem decodeExact_outcome (value : ℤ) :
    format.Settles (format.IsOversized (.int value)) (format.decodeExact value) := by
  have rounding := format.roundExact_isRounding .nearestEven (decide (value < 0)) value.natAbs 0
  have real : signed (decide (value < 0)) ((value.natAbs : ℝ) * 2 ^ (0 : ℤ)) = value := by
    rw [zpow_zero, mul_one, Nat.cast_natAbs, Int.cast_abs]
    have sign : decide (value < 0) = decide ((value : ℝ) < 0) := by simp
    rw [sign, signed_abs]
  have raised := rounding.raised_iff (by positivity)
  rw [real] at raised
  unfold decodeExact roundInteger
  dsimp only
  by_cases member : ((value : ℝ) : EReal) ∈ format.values
  · rw [if_neg (mt raised.mp (not_not.mpr member))]
    exact .ok rounding.fits fun oversized => oversized.2 member
  · have only : format.IsOversized (.int value) ↔ 10 ^ digitLimit ≤ value.natAbs :=
      and_iff_left member
    have category : _ ↔ ¬ ∃ other ∈ [value], 10 ^ digitLimit ≤ other.natAbs := category_refuse
      (.integerInexact value format.exponentBits format.totalBits) rfl
    simp only [List.mem_singleton, exists_eq_left] at category
    rw [← only] at category
    rw [if_pos (raised.mpr member), refuse]
    exact .error category

/-! ## Every value -/

theorem decode_settles {value : Value} (sound : value.IsSound) :
    format.Settles (format.IsOversized value) (format.decode value) := by
  cases value with
  | none => exact .error (iff_of_true rfl id)
  | bool _ => exact .error (iff_of_true rfl id)
  | fixed _ _ => exact .error (iff_of_true rfl id)
  | int value => exact format.decodeExact_outcome value
  | text literal =>
    rw [decode_text]
    exact format.decodeText_outcome literal
  | number pattern =>
    -- A plain number is decoded through its text, which is no hexadecimal literal.
    have outcome := format.decodeText_outcome (plainNumberText pattern)
    have never : format.IsOversized (.text (plainNumberText pattern)) ↔ False := by
      refine iff_of_false ?_ id
      rintro ⟨parts, same, -⟩
      rw [HexParts.ofChars?_plainNumberText] at same
      exact absurd same nofun
    rw [never] at outcome
    exact outcome
  | bits pattern =>
    unfold decode
    dsimp only
    by_cases wide : 2 ^ format.totalBits ≤ pattern
    · rw [if_pos wide]
      exact .error (iff_of_true rfl id)
    · rw [if_neg wide]
      exact .ok (not_le.mp wide) id
  | scalar carrier pattern =>
    unfold decode
    dsimp only
    by_cases stored : format.carrier? = some carrier
    · rw [if_pos stored]
      rw [Value.IsSound, format_of_carrier? stored] at sound
      exact .ok sound id
    · rw [if_neg stored]
      exact .error (iff_of_true rfl id)
  | tuple items => exact .error (category_refuse (.undecodableValue (.tuple items)) rfl)

/-- A literal is decoded to a pattern that fits the format, or refused as a literal. Only a literal
that is oversized is refused in another way: a hexadecimal text whose exponent has too many digits
or needs too many bits, an inexact integer or a tuple with an integer of too many digits to be
shown. -/
theorem decode_outcome {value : Value} (sound : value.IsSound) :
    (∀ pattern, format.decode value = .ok pattern →
      pattern < 2 ^ format.totalBits ∧ ¬ format.IsOversized value) ∧
    ∀ fault, format.decode value = .error fault →
      (fault.category = .literal ↔ ¬ format.IsOversized value) := by
  have settles := format.decode_settles sound
  constructor
  · intro pattern decoded
    rw [decoded] at settles
    cases settles with
    | ok fits small => exact ⟨fits, small⟩
  · intro fault refused
    rw [refused] at settles
    cases settles with
    | error reason => exact reason

/-- An exponent of 23 characters is refused by the shift that it needs, not as a literal. -/
theorem decode_shiftTooWide :
    Format.double.decode (.text "0x1p-1180591620717411303424") = .error .shiftTooWide ∧
      Fault.shiftTooWide.category = .overflow := by
  exact ⟨rfl, rfl⟩

/-- So it is oversized; one in the range of the format is not. -/
theorem decode_outcome_double :
    (Value.text "0x1p-1180591620717411303424").IsSound ∧ (Value.text "0x1p-1074").IsSound ∧
      Format.double.IsOversized (.text "0x1p-1180591620717411303424") ∧
      Format.double.decode (.text "0x1p-1074") = .ok 1 ∧
      ¬ Format.double.IsOversized (.text "0x1p-1074") := by
  have sound (literal : String) : (Value.text literal).IsSound := trivial
  have least : Format.double.decode (.text "0x1p-1074") = .ok 1 := by rfl
  have shift : Format.double.decode (.text "0x1p-1180591620717411303424") =
      .error .shiftTooWide := by rfl
  have other := (Format.double.decode_outcome (sound _)).2 _ shift
  have small := ((Format.double.decode_outcome (sound _)).1 _ least).2
  exact ⟨sound _, sound _, not_not.mp fun no => absurd (other.mpr no) Category.noConfusion, least,
    small⟩

end Format

end LibmAudit
