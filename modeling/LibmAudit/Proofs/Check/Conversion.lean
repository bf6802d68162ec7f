/-
**Converted values fit.**

Whatever value a function under test returns, what it is converted to is a pattern of the format.

* `Carrier.convert_lt`: from one machine type to another.
* `Decimal.NumberText.round_lt`: from the text of a number.
* `Value.toFormat_lt`: from any value.
-/

import LibmAudit.Proofs.Fallible
import LibmAudit.Proofs.Literal.Outcome
import LibmAudit.Value.Conversion

namespace LibmAudit

attribute [local instance (high)] instPowNat

/-! ## Between machine types -/

namespace Carrier

/-- A NaN keeps its sign and some bits of its fraction. -/
theorem convertNaN_eq (source target : Carrier) (pattern : ℕ) :
    ∃ kept < 2 ^ target.format.fractionBits, source.convertNaN target pattern =
      target.format.infinity (source.format.isNegative pattern) + kept := by
  have fraction := source.format.fractionField_lt pattern
  have width := target.format.fractionBits_pos
  have top : 2 ^ (target.format.fractionBits - 1) < 2 ^ target.format.fractionBits :=
    Nat.pow_lt_pow_right (by decide) (by omega)
  have narrowed : source.format.fractionField pattern * 2 ^ target.format.fractionBits /
      2 ^ source.format.fractionBits < 2 ^ target.format.fractionBits := by
    rw [Nat.div_lt_iff_lt_mul (Nat.two_pow_pos _), mul_comm]
    exact Nat.mul_lt_mul_of_pos_left fraction (Nat.two_pow_pos _)
  have one : 1 < 2 ^ target.format.fractionBits := Nat.one_lt_two_pow (by omega)
  unfold convertNaN
  refine ⟨_, ?_, rfl⟩
  split
  · exact Nat.or_lt_two_pow narrowed top
  · exact narrowed
  · exact max_lt one narrowed
  · exact Nat.or_lt_two_pow narrowed top

theorem convertNaN_lt (source target : Carrier) (pattern : ℕ) :
    source.convertNaN target pattern < 2 ^ target.format.totalBits := by
  obtain ⟨kept, small, converted⟩ := source.convertNaN_eq target pattern
  rw [converted]
  exact target.format.infinity_add_lt _ small

theorem convertOnce_lt (source target : Carrier) {pattern : ℕ}
    (fits : pattern < 2 ^ source.format.totalBits) :
    source.convertOnce target pattern < 2 ^ target.format.totalBits := by
  unfold convertOnce
  dsimp only
  split
  · next same => rwa [← same]
  · split
    · exact source.convertNaN_lt target pattern
    · split
      · exact (target.format.roundExact_isRounding .nearestEven _ _ _).fits
      · exact target.format.infinity_lt _

theorem convert_lt (source target : Carrier) {pattern : ℕ}
    (fits : pattern < 2 ^ source.format.totalBits) :
    source.convert target pattern < 2 ^ target.format.totalBits := by
  unfold convert
  split
  -- The extended type goes to the 16-bit type through the 32-bit type.
  · exact single.convertOnce_lt half (extended.convertOnce_lt single fits)
  · exact source.convertOnce_lt target fits

end Carrier

/-! ## From other values -/

theorem Decimal.NumberText.round_lt (format : Format) (text : NumberText) :
    text.round format < 2 ^ format.totalBits := by
  unfold round
  split
  · exact format.quietNaN_lt _
  · exact format.infinity_lt _
  · split
    · exact format.zero_lt _
    · split
      · exact format.infinity_lt _
      · split
        · exact format.zero_lt _
        · exact (format.roundRatio_isRounding .nearestEven _ (Nat.pow_pos (by decide)).ne').fits
  · exact (format.roundExact_isRounding .nearestEven _ _ _).fits

theorem roundInteger_lt (format : Format) (value : ℤ) :
    (format.roundInteger .nearestEven value).pattern < 2 ^ format.totalBits :=
  (format.roundExact_isRounding .nearestEven _ _ _).fits

theorem doubleOfInteger_lt {value : ℤ} {pattern : ℕ}
    (converted : doubleOfInteger value = .ok pattern) :
    pattern < 2 ^ Carrier.double.format.totalBits := by
  unfold doubleOfInteger at converted
  dsimp only at converted
  split at converted
  · exact absurd converted nofun
  · rw [← Except.ok.inj converted]
    exact roundInteger_lt Format.double value

theorem patternOfText_lt {format : Format} {text : String} {pattern : ℕ}
    (converted : patternOfText format text = .ok pattern) : pattern < 2 ^ format.totalBits := by
  unfold patternOfText at converted
  split at converted
  · rw [← Except.ok.inj converted]
    exact Decimal.NumberText.round_lt format _
  · exact absurd converted nofun

theorem patternOfExtendedText_lt {text : String} {pattern : ℕ}
    (converted : patternOfExtendedText text = .ok pattern) :
    pattern < 2 ^ Carrier.extended.format.totalBits := by
  unfold patternOfExtendedText at converted
  split at converted
  · rw [← Except.ok.inj converted]
    exact Decimal.NumberText.round_lt Format.extended _
  · exact absurd converted nofun

namespace Value

/-- A value that is no tuple is converted to a pattern that fits. -/
theorem scalarToCarrier_lt {carrier : Carrier} {value : Value} (sound : value.IsSound)
    {pattern : ℕ} (converted : scalarToCarrier carrier value = .ok pattern) :
    pattern < 2 ^ carrier.format.totalBits := by
  unfold scalarToCarrier at converted
  split at converted
  · rw [← Except.ok.inj converted]
    exact carrier.format.quietNaN_lt false
  · rw [← Except.ok.inj converted]
    exact roundInteger_lt carrier.format _
  · split at converted
    · split at converted
      · rw [← Except.ok.inj converted]
        exact roundInteger_lt carrier.format _
      · exact absurd converted nofun
    · obtain ⟨double, first, rfl⟩ := map_eq_ok_iff.mp converted
      exact Carrier.double.convert_lt carrier (doubleOfInteger_lt first)
  · split at converted
    · next same =>
      rw [same]
      exact patternOfExtendedText_lt converted
    · obtain ⟨double, first, rfl⟩ := map_eq_ok_iff.mp converted
      exact Carrier.double.convert_lt carrier (patternOfText_lt first)
  · exact absurd converted nofun
  · rw [← Except.ok.inj converted]
    exact Carrier.double.convert_lt carrier sound
  · rw [← Except.ok.inj converted]
    exact Carrier.convert_lt _ carrier sound
  · rw [← Except.ok.inj converted]
    exact roundInteger_lt carrier.format _
  · exact absurd converted nofun

/-- A value that is no tuple is its only entry. -/
theorem single_lt {carrier : Carrier} {value : Value} (sound : value.IsSound)
    {patterns : List ℕ} (converted : (scalarToCarrier carrier value).map ([·]) = .ok patterns) :
    ∀ pattern ∈ patterns, pattern < 2 ^ carrier.format.totalBits := by
  obtain ⟨pattern, first, rfl⟩ := map_eq_ok_iff.mp converted
  intro other member
  rw [List.mem_singleton.mp member]
  exact scalarToCarrier_lt sound first

mutual
/-- So are all entries of a value. -/
theorem entriesToCarrier_lt {carrier : Carrier} : ∀ {value : Value}, value.IsSound →
    ∀ {patterns : List ℕ}, entriesToCarrier carrier value = .ok patterns →
      ∀ pattern ∈ patterns, pattern < 2 ^ carrier.format.totalBits
  | tuple items, sound, patterns, converted => by
    rw [entriesToCarrier] at converted
    exact allToCarrier_lt sound converted
  | none, sound, patterns, converted => single_lt sound converted
  | bool _, sound, patterns, converted => single_lt sound converted
  | int _, sound, patterns, converted => single_lt sound converted
  | text _, sound, patterns, converted => single_lt sound converted
  | bits _, sound, patterns, converted => single_lt sound converted
  | number _, sound, patterns, converted => single_lt sound converted
  | scalar _ _, sound, patterns, converted => single_lt sound converted
  | fixed _ _, sound, patterns, converted => single_lt sound converted

/-- And all entries of several values. -/
theorem allToCarrier_lt {carrier : Carrier} : ∀ {items : List Value}, AllSound items →
    ∀ {patterns : List ℕ}, allToCarrier carrier items = .ok patterns →
      ∀ pattern ∈ patterns, pattern < 2 ^ carrier.format.totalBits
  | [], _, patterns, converted => by
    rw [← Except.ok.inj converted]
    exact fun _ member => absurd member List.not_mem_nil
  | item :: rest, sound, patterns, converted => by
    rw [allToCarrier] at converted
    obtain ⟨first, converted, last⟩ := bind_eq_ok_iff.mp converted
    obtain ⟨others, converted', joined⟩ := bind_eq_ok_iff.mp last
    rw [← Except.ok.inj joined]
    intro pattern member
    rcases List.mem_append.mp member with member | member
    · exact entriesToCarrier_lt sound.1 converted pattern member
    · exact allToCarrier_lt sound.2 converted' pattern member
end

/-- Any value is converted to a pattern that fits the format, if it is converted. -/
theorem toFormat_lt {format : Format} {value : Value} (sound : value.IsSound) {pattern : ℕ}
    (converted : value.toFormat format = .ok pattern) : pattern < 2 ^ format.totalBits := by
  unfold toFormat at converted
  split at converted
  · next carrier stored =>
    unfold toCarrier at converted
    split at converted
    · exact absurd converted nofun
    · obtain ⟨patterns, entries, rfl⟩ := map_eq_ok_iff.mp converted
      have all := entriesToCarrier_lt sound entries
      rw [Format.format_of_carrier? stored] at all
      cases patterns with
      | nil => exact Nat.two_pow_pos _
      | cons first others => exact all first List.mem_cons_self
  · exact absurd converted nofun

end Value

end LibmAudit
