/-
**Hexadecimal and integer literals are decoded exactly.**

They are rounded and refused when that raises an exception other than underflow. So they are decoded
just if the format has their value, to the pattern with that value and with their sign.

* `Format.IsExactly`: the pattern of a finite value with a sign.
* `Format.roundedOnly_eq_ok_iff`: a rounding that must not raise gives this pattern.
* `Writes`: the number that a literal writes.
* `Format.decode_hexadecimal`, `decode_integer`: the two kinds of literals.
* `Format.decodesExactly`: what both have in common, and literals that write the same number.
-/

import LibmAudit.Proofs.Literal.Hexadecimal
import LibmAudit.Proofs.Order.Finite

namespace LibmAudit

attribute [local instance (high)] instPowNat

namespace Format

variable (format : Format)

/-! ## Exact patterns -/

/-- The pattern has a finite value, by its sign and its magnitude. -/
structure IsExactly (format : Format) (pattern : ℕ) (negative : Bool) (magnitude : ℚ) : Prop where
  fits : pattern < 2 ^ format.totalBits
  isFinite : format.isFinite pattern = true
  sign : format.isNegative pattern = negative
  realOf : format.realOf pattern = signed negative (magnitude : ℝ)

variable {format} {negative : Bool} {magnitude : ℚ} {pattern other : ℕ}

theorem IsExactly.mem_values (exactly : format.IsExactly pattern negative magnitude) :
    ((signed negative (magnitude : ℝ) : ℝ) : EReal) ∈ format.values := by
  refine ⟨pattern, exactly.fits, format.isNaN_of_finite exactly.isFinite, ?_⟩
  rw [format.valueOf_of_finite exactly.isFinite, exactly.realOf]

/-- There is one such pattern. -/
theorem IsExactly.unique (exactly : format.IsExactly pattern negative magnitude)
    (exactly' : format.IsExactly other negative magnitude) : pattern = other := by
  have fits := exactly.fits
  have fits' := exactly'.fits
  have ordinals := (format.valueOf_eq_iff fits fits' (format.isNaN_of_finite exactly.isFinite)
    (format.isNaN_of_finite exactly'.isFinite)).mp (by
      rw [format.valueOf_of_finite exactly.isFinite, format.valueOf_of_finite exactly'.isFinite,
        exactly.realOf, exactly'.realOf])
  refine format.eq_of_magnitudeField_eq fits fits' (exactly.sign.trans exactly'.sign.symm) ?_
  rw [← format.natAbs_toOrdinal fits, ← format.natAbs_toOrdinal fits', ordinals]

/-- Each value of the format has such a pattern, of either sign if it is zero. -/
theorem exists_isExactly (nonneg : 0 ≤ magnitude)
    (member : ((signed negative (magnitude : ℝ) : ℝ) : EReal) ∈ format.values) :
    ∃ pattern, format.IsExactly pattern negative magnitude := by
  obtain ⟨ordinal, finite, value⟩ :=
    exists_magnitudeAt_of_mem_values (by exact_mod_cast nonneg) member
  have small := finite.trans format.infinityOrdinal_lt
  refine ⟨format.signBit negative + ordinal, format.signBit_add_lt negative small,
    format.isFinite_signBit_add negative finite, format.isNegative_signBit_add negative small, ?_⟩
  rw [format.realOf_signBit_add negative finite, value]

/-- A rounding without an exception is exact. -/
theorem IsRounding.isExactly {mode : Mode} {result : Rounded}
    (rounding : format.IsRounding mode negative magnitude result) (nonneg : 0 ≤ magnitude)
    (member : ((signed negative (magnitude : ℝ) : ℝ) : EReal) ∈ format.values) :
    format.IsExactly result.pattern negative magnitude := by
  have raised := rounding.flags_eq_none (by exact_mod_cast nonneg) member
  have value : format.valueOf result.pattern = (signed negative (magnitude : ℝ) : ℝ) := by
    by_contra differs
    have inexact := rounding.inexact.mpr differs
    rw [raised] at inexact
    exact absurd inexact Bool.false_ne_true
  have finite : format.isFinite result.pattern = true := by
    refine format.isFinite_of_valueOf rounding.isNumber ?_ ?_
    · rw [value]
      exact EReal.coe_ne_top _
    · rw [value]
      exact EReal.coe_ne_bot _
  rw [format.valueOf_of_finite finite, EReal.coe_eq_coe_iff] at value
  exact ⟨rounding.fits, finite, rounding.sign, value⟩

/-- A rounding that must be exact gives the exact pattern, if there is one. -/
theorem IsRounding.eq_ok_iff {mode : Mode} {result : Rounded} (pattern : ℕ) (fault : Fault)
    (rounding : format.IsRounding mode negative magnitude result) (nonneg : 0 ≤ magnitude) :
    (if (result.flags.inexact || result.flags.overflow) = true then .error fault
      else .ok result.pattern : Except Fault ℕ) = .ok pattern ↔
        format.IsExactly pattern negative magnitude := by
  have raised := rounding.raised_iff (by exact_mod_cast nonneg)
  by_cases member : ((signed negative (magnitude : ℝ) : ℝ) : EReal) ∈ format.values
  · have exactly := rounding.isExactly nonneg member
    rw [if_neg (mt raised.mp (not_not.mpr member))]
    constructor
    · intro decoded
      rwa [← Except.ok.inj decoded]
    · exact fun exactly' => congrArg Except.ok (exactly.unique exactly')
  · rw [if_pos (raised.mpr member)]
    exact iff_of_false nofun fun exactly => member exactly.mem_values

/-! ## Integers -/

variable (format)

/-- An integer is decoded just if it is a value. -/
theorem decode_integer (n : ℤ) :
    format.decode (.int n) = .ok pattern ↔
      format.IsExactly pattern (decide (n < 0)) n.natAbs := by
  have rounding := format.roundExact_isRounding .nearestEven (decide (n < 0)) n.natAbs 0
  have magnitude : (n.natAbs * 2 ^ (0 : ℤ) : ℝ) = ((n.natAbs : ℚ) : ℝ) := by
    rw [zpow_zero, mul_one, Rat.cast_natCast]
  rw [magnitude] at rounding
  exact rounding.eq_ok_iff pattern _ (Nat.cast_nonneg _)

/-! ## Hexadecimal numerals -/

/-- Where a value would be shifted beyond memory, its digits are beyond memory. -/
theorem isBeyondMemory_of_long {significand length : ℕ} {place : ℤ} {x : ℝ}
    (same : significand * 2 ^ place = x) (some : significand ≠ 0)
    (short : significand < 16 ^ length)
    (member : ((signed negative x : ℝ) : EReal) ∈ format.values)
    (long : storageLimit ≤ format.placeFor significand place - place) :
    isBeyondMemory (4 * length) = true := by
  have nonneg : 0 ≤ x := by
    rw [← same]
    positivity
  obtain ⟨ordinal, finite, value⟩ := exists_magnitudeAt_of_mem_values nonneg member
  have positive : 0 < ordinal := by
    refine Nat.pos_of_ne_zero ?_
    rintro rfl
    rw [format.magnitudeAt_zero] at value
    rw [← value, mul_eq_zero, Nat.cast_eq_zero] at same
    exact same.elim some (zpow_ne_zero place two_ne_zero)
  have below := placeFor_le_placeAt positive (same.trans value.symm)
  obtain ⟨shift, moved⟩ := Int.eq_ofNat_of_zero_le
    (show 0 ≤ format.placeAt ordinal - place by omega)
  -- The value is a multiple of the power of two at its own place, and so are its digits.
  have multiple : (significand : ℝ) = format.significandAt ordinal * 2 ^ shift := by
    have unit : (0 : ℝ) < 2 ^ place := by positivity
    have split : (2 : ℝ) ^ format.placeAt ordinal = 2 ^ shift * 2 ^ place := by
      rw [← zpow_natCast, ← zpow_add₀ two_ne_zero, ← moved, sub_add_cancel]
    rw [← value, magnitudeAt, split, ← mul_assoc] at same
    exact mul_right_cancel₀ unit.ne' same
  have least : 2 ^ shift ≤ significand := by
    have natural : significand = format.significandAt ordinal * 2 ^ shift := by
      exact_mod_cast multiple
    rw [natural]
    exact Nat.le_mul_of_pos_left _ (Nat.pos_of_ne_zero (significand_ne_zero positive rfl))
  have bits : shift < 4 * length := by
    refine (Nat.pow_lt_pow_iff_right (show 1 < 2 by decide)).mp (least.trans_lt ?_)
    rwa [pow_mul]
  refine decide_eq_true ?_
  omega

/-- A hexadecimal numeral is decoded as its parts are. -/
theorem decode_of_parts {literal : String} {parts : HexParts}
    (read : HexParts.ofChars? (Text.lowerCase (Text.strip literal)).toList = some parts) :
    format.decode (.text literal) = format.decodeHex parts literal := by
  rw [decode_text, decodeText]
  cases named : format.decodeName? (Text.lowerCase (Text.strip literal)) with
  | some pattern =>
    rw [(format.decodeName?_eq_some named).2] at read
    exact absurd read nofun
  | none =>
    dsimp only
    rw [read]

/-- The digits of a literal are beyond memory, as decoding it tells. -/
def RunsOut (format : Format) (literal : Value) (length : ℕ) : Prop :=
  isBeyondMemory (4 * length) = true ∧
    (format.decode literal = .error .shiftTooWide ∨ format.decode literal = .error .outOfMemory)

/-- A hexadecimal numeral with a digit is decoded just if its number is a value. -/
theorem decode_hexadecimal {literal : String} {digits : List ℕ}
    (numeral : Hexadecimal.IsNumeral (Text.lowerCase (Text.strip literal)).toList negative digits
      magnitude) (some : digits ≠ []) :
    (format.decode (.text literal) = .ok pattern → format.IsExactly pattern negative magnitude) ∧
    (format.IsExactly pattern negative magnitude →
      format.decode (.text literal) = .ok pattern ∨
        format.RunsOut (.text literal) digits.length) := by
  obtain ⟨parts, read, rfl, length, short, small, same⟩ := numeral.read
  have filled : parts.whole ≠ [] ∨ parts.fraction ≠ [] := by
    by_contra none
    rw [not_or, not_not, not_not] at none
    rw [none.1, none.2] at length
    exact some (List.length_eq_zero_iff.mp length.symm)
  have real : (parts.significand * 2 ^ parts.lastPlace : ℝ) = (magnitude : ℝ) := by
    rw [← same]
    push_cast
    rfl
  have nonneg : 0 ≤ magnitude := by
    rw [← same]
    positivity
  have outcome := format.round_outcome .nearestEven parts.negative parts.significand parts.lastPlace
  rw [format.decode_of_parts read, format.decodeHex_eq filled short]
  cases rounded : format.round .nearestEven parts.negative parts.significand parts.lastPlace false
    with
  | ok result =>
    rw [rounded, real] at outcome
    have only := outcome.1.eq_ok_iff pattern
      (.hexadecimalInexact literal format.exponentBits format.totalBits) nonneg
    exact ⟨only.mp, fun exactly => Or.inl (only.mpr exactly)⟩
  | error fault =>
    rw [rounded] at outcome
    obtain ⟨refused, nonzero, long⟩ := outcome
    refine ⟨nofun, fun exactly => Or.inr ⟨?_, ?_⟩⟩
    · exact format.isBeyondMemory_of_long real nonzero small exactly.mem_values long
    · rw [format.decode_of_parts read, format.decodeHex_eq filled short, rounded]
      exact refused.imp (congrArg Except.error) (congrArg Except.error)

/-- A hexadecimal numeral without a digit is refused. -/
theorem decode_empty {literal : String}
    (numeral : Hexadecimal.IsNumeral (Text.lowerCase (Text.strip literal)).toList negative []
      magnitude) :
    format.decode (.text literal) = .error (.hexadecimalEmpty literal) := by
  obtain ⟨parts, read, -, length, -⟩ := numeral.read
  rw [List.length_nil, Nat.add_eq_zero_iff] at length
  have empty : (parts.whole.isEmpty && parts.fraction.isEmpty) = true := by
    rw [List.length_eq_zero_iff.mp length.1, List.length_eq_zero_iff.mp length.2]
    rfl
  rw [format.decode_of_parts read, decodeHex, if_pos empty]
  rfl

end Format

/-! ## Literals that write a number -/

/-- A literal writes a number, by its sign and its magnitude: a hexadecimal text with a number of
digits, or an integer, of which no digits are read. -/
inductive Writes : Value → ℕ → Bool → ℚ → Prop
  | hexadecimal {literal : String} {digits : List ℕ} {negative : Bool} {magnitude : ℚ}
      (numeral : Hexadecimal.IsNumeral (Text.lowerCase (Text.strip literal)).toList negative digits
        magnitude) (some : digits ≠ []) : Writes (.text literal) digits.length negative magnitude
  | integer (n : ℤ) : Writes (.int n) 0 (decide (n < 0)) n.natAbs

namespace Format

/-- A format decodes literals exactly: just those whose number it has as a value, to the pattern of
the number with the sign of the literal, so that literals of one number are decoded alike. A literal
may have more digits than memory holds; that is told in another way. -/
structure DecodesExactly (format : Format) : Prop where
  empty : ∀ {literal : String} {negative : Bool} {magnitude : ℚ} {pattern : ℕ},
    Hexadecimal.IsNumeral (Text.lowerCase (Text.strip literal)).toList negative [] magnitude →
      format.decode (.text literal) ≠ .ok pattern
  sound : ∀ {literal : Value} {length : ℕ} {negative : Bool} {magnitude : ℚ} {pattern : ℕ},
    Writes literal length negative magnitude → format.decode literal = .ok pattern →
      format.IsExactly pattern negative magnitude
  complete : ∀ {literal : Value} {length : ℕ} {negative : Bool} {magnitude : ℚ},
    Writes literal length negative magnitude →
      ((signed negative (magnitude : ℝ) : ℝ) : EReal) ∈ format.values →
        (∃ pattern, format.decode literal = .ok pattern) ∨ format.RunsOut literal length
  alike : ∀ {literal other : Value} {length length' : ℕ} {negative : Bool} {magnitude : ℚ}
      {pattern : ℕ}, Writes literal length negative magnitude →
    Writes other length' negative magnitude → format.decode literal = .ok pattern →
      format.decode other = .ok pattern ∨ format.RunsOut other length'

variable {format : Format} {literal : Value} {length : ℕ} {negative : Bool} {magnitude : ℚ}
  {pattern : ℕ}

theorem nonneg_of_writes (writes : Writes literal length negative magnitude) : 0 ≤ magnitude := by
  cases writes with
  | hexadecimal numeral _ =>
    obtain ⟨parts, -, -, -, -, -, same⟩ := numeral.read
    rw [← same]
    positivity
  | integer n => exact Nat.cast_nonneg _

theorem isExactly_of_writes (writes : Writes literal length negative magnitude)
    (decoded : format.decode literal = .ok pattern) :
    format.IsExactly pattern negative magnitude := by
  cases writes with
  | hexadecimal numeral some => exact (format.decode_hexadecimal numeral some).1 decoded
  | integer n => exact (format.decode_integer n).mp decoded

theorem decode_of_writes (writes : Writes literal length negative magnitude)
    (exactly : format.IsExactly pattern negative magnitude) :
    format.decode literal = .ok pattern ∨ format.RunsOut literal length := by
  cases writes with
  | hexadecimal numeral some => exact (format.decode_hexadecimal numeral some).2 exactly
  | integer n => exact Or.inl ((format.decode_integer n).mpr exactly)

variable (format) in
/-- **Hexadecimal and integer literals are decoded exactly.** A literal with a digit is decoded just
if its number is a value of the format, subnormal ones included, to the pattern with that value and
with the sign of the literal, which zeros keep. However a number is written, it is decoded to one
pattern. -/
theorem decodesExactly : format.DecodesExactly where
  empty numeral := by
    rw [format.decode_empty numeral]
    nofun
  sound := isExactly_of_writes
  complete writes member := by
    obtain ⟨pattern, exactly⟩ := exists_isExactly (nonneg_of_writes writes) member
    exact (decode_of_writes writes exactly).imp_left fun decoded => ⟨pattern, decoded⟩
  alike writes writes' decoded :=
    decode_of_writes writes' (isExactly_of_writes writes decoded)

/-- Three with a leading zero and a moved point, and as an integer. A zero keeps its sign. -/
theorem decodesExactly_half :
    Format.half.DecodesExactly ∧
      Writes (.text " 0X0C.0P-2 ") 3 false 3 ∧ Writes (.int 3) 0 false 3 ∧
      Format.half.decode (.text " 0X0C.0P-2 ") = .ok 0x4200 ∧
      Format.half.decode (.int 3) = .ok 0x4200 ∧
      Writes (.text "-0x.0p99") 1 true 0 ∧ Format.half.decode (.text "-0x.0p99") = .ok 0x8000 := by
  have exactly := decodesExactly .half
  have three : Writes (.int 3) 0 false 3 := .integer 3
  have moved : Writes (.text " 0X0C.0P-2 ") 3 false 3 := by
    have read : (Text.lowerCase (Text.strip " 0X0C.0P-2 ")).toList =
        ['0', 'x', '0', 'c', '.', '0', 'p', '-', '2'] := by rfl
    have numeral := Hexadecimal.IsNumeral.intro .absent
      (⟨by decide, rfl⟩ : Hexadecimal.IsDigits 16 ['0', 'c'] [0, 12])
      (.point (⟨by decide, rfl⟩ : Hexadecimal.IsDigits 16 ['0'] [0])) .minus
      (⟨by decide, rfl⟩ : Hexadecimal.IsDigits 10 ['2'] [2]) (by decide) (by decide)
    have value : ((Nat.ofDigits 16 [0, 12].reverse +
        Nat.ofDigits 16 [0].reverse / 16 ^ [0].length) *
          2 ^ signed true (Decimal.number [2] : ℤ) : ℚ) = 3 := by
      norm_num [signed, Decimal.number, Nat.ofDigits]
    rw [value] at numeral
    refine @Writes.hexadecimal _ [0, 12, 0] _ _ ?_ (by decide)
    rw [read]
    exact numeral
  have zero : Writes (.text "-0x.0p99") 1 true 0 := by
    have read : (Text.lowerCase (Text.strip "-0x.0p99")).toList =
        ['-', '0', 'x', '.', '0', 'p', '9', '9'] := by rfl
    have numeral := Hexadecimal.IsNumeral.intro .minus
      (⟨by decide, rfl⟩ : Hexadecimal.IsDigits 16 [] [])
      (.point (⟨by decide, rfl⟩ : Hexadecimal.IsDigits 16 ['0'] [0])) .absent
      (⟨by decide, rfl⟩ : Hexadecimal.IsDigits 10 ['9', '9'] [9, 9]) (by decide) (by decide)
    have value : ((Nat.ofDigits 16 [].reverse + Nat.ofDigits 16 [0].reverse / 16 ^ [0].length) *
        2 ^ signed false (Decimal.number [9, 9] : ℤ) : ℚ) = 0 := by
      norm_num [Nat.ofDigits]
    rw [value] at numeral
    refine @Writes.hexadecimal _ [0] _ _ ?_ (by decide)
    rw [read]
    exact numeral
  have decoded : Format.half.decode (.int 3) = .ok 0x4200 := by rfl
  refine ⟨exactly, moved, three, ?_, decoded, zero, by rfl⟩
  exact (exactly.alike three moved decoded).resolve_right fun out => absurd out.1 (by decide)

end Format

end LibmAudit
