/-
**Hexadecimal literals.**

* `HexParts.chars`: the parts of a literal in a row.
* `HexParts.ofChars?_chars`: they are read back.
* `Format.partsOf`: the parts that a finite pattern is written with.
* `Format.render_toList`: its text.
-/

import LibmAudit.Proofs.Rendering.Fraction

namespace LibmAudit

attribute [local instance (high)] instPowNat

/-! ## Parts of a literal -/

namespace HexParts

/-- A sign if it is a minus. -/
def signChars (negative : Bool) : List Char := if negative then ['-'] else []

/-- The point with the digits after it, if there are any. -/
def pointChars (digits : List Char) : List Char := if digits = [] then [] else '.' :: digits

/-- The exponent, always with a sign. -/
def powerChars (negative : Bool) (digits : List Char) : List Char :=
  (if negative then '-' else '+') :: digits

/-- The parts of a literal in a row. -/
def chars (parts : HexParts) : List Char :=
  signChars parts.negative ++ '0' :: 'x' :: (parts.whole ++ (pointChars parts.fraction ++
    'p' :: powerChars parts.exponentNegative parts.exponent))

/-- All digits are digits, and the exponent has some. -/
structure WellFormed (parts : HexParts) : Prop where
  whole : ∀ char ∈ parts.whole, ∃ digit < 16, char = Nat.digitChar digit
  fraction : ∀ char ∈ parts.fraction, ∃ digit < 16, char = Nat.digitChar digit
  exponent : ∀ char ∈ parts.exponent, ∃ digit < 10, char = Nat.digitChar digit
  exponent_ne_nil : parts.exponent ≠ []

variable {parts : HexParts}

theorem takeSign_signChars (negative : Bool) (rest : List Char) :
    Text.takeSign (signChars negative ++ '0' :: rest) = (negative, '0' :: rest) := by
  cases negative <;> rfl

theorem takeSign_powerChars (negative : Bool) (digits : List Char) :
    Text.takeSign (powerChars negative digits) = (negative, digits) := by
  cases negative <;> rfl

theorem takeHexFraction_pointChars {digits : List Char} (rest : List Char)
    (hexadecimal : ∀ char ∈ digits, isHexDigit char = true) :
    takeHexFraction (pointChars digits ++ 'p' :: rest) = (digits, 'p' :: rest) := by
  have stop : isHexDigit 'p' = false := by decide
  by_cases none : digits = []
  · subst none
    rfl
  · rw [pointChars, if_neg none]
    show (List.takeWhile isHexDigit (digits ++ _), List.dropWhile isHexDigit (digits ++ _)) = _
    rw [List.takeWhile_append_of_pos hexadecimal, List.dropWhile_append_of_pos hexadecimal]
    simp [stop]

theorem isHexDigit_of_digitChar {char : Char} (digit : ∃ digit < 16, char = Nat.digitChar digit) :
    isHexDigit char = true := by
  obtain ⟨digit, small, rfl⟩ := digit
  exact (isHexDigit_digitChar digit small).1

/-- The parts are read back. -/
theorem ofChars?_chars (wellFormed : parts.WellFormed) : ofChars? parts.chars = some parts := by
  have whole : ∀ char ∈ parts.whole, isHexDigit char = true := by
    intro char member
    exact isHexDigit_of_digitChar (wellFormed.whole char member)
  have fraction : ∀ char ∈ parts.fraction, isHexDigit char = true := by
    intro char member
    exact isHexDigit_of_digitChar (wellFormed.fraction char member)
  have exponent : parts.exponent.any (!Char.isDigit ·) = false := by
    rw [List.any_eq_false]
    intro char member
    obtain ⟨digit, small, rfl⟩ := wellFormed.exponent char member
    simp [small]
  -- Neither the point nor the mark of the exponent is a digit.
  have stop : ∀ digits rest, (pointChars digits ++ 'p' :: rest).takeWhile isHexDigit = [] ∧
      (pointChars digits ++ 'p' :: rest).dropWhile isHexDigit =
        pointChars digits ++ 'p' :: rest := by
    intro digits rest
    by_cases none : digits = []
    · subst none
      exact ⟨rfl, rfl⟩
    · rw [pointChars, if_neg none]
      exact ⟨rfl, rfl⟩
  have filled := List.isEmpty_eq_false_iff.mpr wellFormed.exponent_ne_nil
  simp only [ofChars?, chars, takeSign_signChars, List.dropWhile_append_of_pos whole,
    List.takeWhile_append_of_pos whole, stop, takeHexFraction_pointChars _ fraction,
    takeSign_powerChars, exponent, filled, List.append_nil]
  rfl

theorem isPlain_of_digitChar {base : ℕ} (small : base ≤ 16) {digits : List Char}
    (written : ∀ char ∈ digits, ∃ digit < base, char = Nat.digitChar digit) :
    ∀ char ∈ digits, Text.isPlain char = true := by
  intro char member
  obtain ⟨digit, below, rfl⟩ := written char member
  exact (isHexDigit_digitChar digit (by omega)).2

/-- The characters are plain. -/
theorem isPlain_of_mem_chars (wellFormed : parts.WellFormed) :
    ∀ char ∈ parts.chars, Text.isPlain char = true := by
  have fraction := isPlain_of_digitChar le_rfl wellFormed.fraction
  have exponent := isPlain_of_digitChar (by decide) wellFormed.exponent
  simp only [chars, List.forall_mem_append, List.forall_mem_cons]
  refine ⟨?_, rfl, rfl, isPlain_of_digitChar le_rfl wellFormed.whole, ?_, rfl, ?_⟩
  · unfold signChars
    split
    · exact List.forall_mem_singleton.mpr rfl
    · exact List.forall_mem_nil _
  · unfold pointChars
    split
    · exact List.forall_mem_nil _
    · exact List.forall_mem_cons.mpr ⟨rfl, fraction⟩
  · refine List.forall_mem_cons.mpr ⟨?_, exponent⟩
    cases parts.exponentNegative <;> rfl

end HexParts

/-! ## Finite patterns -/

namespace Format

variable (format : Format)

/-- The exponent that a finite pattern is written with. -/
def writtenExponent (format : Format) (pattern : ℤ) : ℤ :=
  if format.exponentField pattern = 0 then
    if format.fractionField pattern = 0 then 0 else format.emin
  else format.exponentField pattern - format.bias

/-- The parts that a finite pattern is written with. -/
def partsOf (format : Format) (pattern : ℤ) : HexParts where
  negative := format.isNegative pattern
  whole := [if format.exponentField pattern = 0 then '0' else '1']
  fraction :=
    if format.exponentField pattern = 0 ∧ format.fractionField pattern = 0 then []
    else (format.fractionDigits (format.fractionField pattern)).toList
  exponentNegative := decide (format.writtenExponent pattern < 0)
  exponent := Nat.toDigits 10 (format.writtenExponent pattern).natAbs

theorem signedDecimal_toList (value : ℤ) :
    (signedDecimal value).toList =
      HexParts.powerChars (decide (value < 0)) (Nat.toDigits 10 value.natAbs) := by
  unfold signedDecimal HexParts.powerChars
  cases value with
  | ofNat magnitude =>
    have positive : ¬ (Int.ofNat magnitude < 0) := not_lt.mpr (Int.natCast_nonneg _)
    rw [if_neg positive, decide_eq_false positive, if_neg Bool.false_ne_true,
      String.toList_append, Int.ofNat_eq_natCast, Int.natAbs_natCast]
    show _ ++ (Nat.repr magnitude).toList = _
    rw [Nat.toList_repr]
    rfl
  | negSucc magnitude =>
    have negative := Int.negSucc_lt_zero magnitude
    rw [if_pos negative, decide_eq_true negative, if_pos rfl, Int.natAbs_negSucc]
    show ("-" ++ Nat.repr (magnitude + 1)).toList = _
    rw [String.toList_append, Nat.toList_repr]
    rfl

theorem partsOf_wellFormed (pattern : ℤ) : (format.partsOf pattern).WellFormed := by
  obtain ⟨-, -, digits⟩ := format.fractionDigits_spec (format.fractionField_lt pattern)
  refine ⟨?_, ?_, fun char member => Text.mem_toDigits (by decide) member, Nat.toDigits_ne_nil⟩
  · refine List.forall_mem_singleton.mpr ?_
    by_cases lowest : format.exponentField pattern = 0
    · exact ⟨0, by decide, if_pos lowest⟩
    · exact ⟨1, by decide, if_neg lowest⟩
  · unfold partsOf
    dsimp only
    split
    · exact List.forall_mem_nil _
    · exact digits

theorem point_toList (digits : String) :
    (if digits.isEmpty then "" else "." ++ digits).toList = HexParts.pointChars digits.toList := by
  unfold HexParts.pointChars
  by_cases none : digits = ""
  · subst none
    rfl
  · have some : digits.toList ≠ [] := mt String.toList_eq_nil_iff.mp none
    rw [if_neg (by simpa using none), if_neg some, String.toList_append]
    rfl

/-- A finite pattern is written by its parts. -/
theorem render_toList {pattern : ℤ} (finite : format.isFinite pattern = true) :
    (format.render pattern).toList = (format.partsOf pattern).chars := by
  have field : format.exponentField pattern ≠ format.exponentMask := by
    simpa [isFinite] using finite
  have sign : (if format.isNegative pattern then "-" else "").toList =
      HexParts.signChars (format.isNegative pattern) := by
    cases format.isNegative pattern <;> rfl
  have whole : (if format.exponentField pattern = 0 then "0" else "1").toList =
      [if format.exponentField pattern = 0 then '0' else '1'] := by
    split <;> rfl
  unfold render partsOf HexParts.chars
  dsimp only
  rw [if_neg field]
  by_cases zero : format.exponentField pattern = 0 ∧ format.fractionField pattern = 0
  · rw [if_pos zero, if_pos zero, writtenExponent, if_pos zero.1, if_pos zero.1, if_pos zero.2,
      String.toList_append, sign]
    rfl
  · have exponent : (if format.exponentField pattern = 0 then format.emin
        else format.exponentField pattern - format.bias) = format.writtenExponent pattern := by
      unfold writtenExponent
      by_cases lowest : format.exponentField pattern = 0
      · rw [if_pos lowest, if_pos lowest, if_neg fun none => zero ⟨lowest, none⟩]
      · rw [if_neg lowest, if_neg lowest]
    rw [if_neg zero, if_neg zero, exponent]
    simp only [String.toList_append, sign, whole, point_toList, signedDecimal_toList,
      List.append_assoc]
    rfl

end Format

end LibmAudit
