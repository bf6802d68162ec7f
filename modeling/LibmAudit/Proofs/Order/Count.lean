/-
**Distances count values.**

The ordinals of two patterns differ by the number of values between them, the greater one included.

* `Format.valuesBetween`: the values above the lesser of two, up to the greater one.
* `Format.image_valueAt`: the values are those with an ordinal up to that of the infinities.
* `Format.encard_valuesBetween`: their number.
-/

import LibmAudit.Proofs.Order.Ordinal

namespace LibmAudit.Format

attribute [local instance (high)] instPowNat

/-- The values of a format above the lesser value of two patterns, up to the greater one. -/
def valuesBetween (format : Format) (first second : ℕ) : Set EReal :=
  {value ∈ format.values | min (format.valueOf first) (format.valueOf second) < value ∧
    value ≤ max (format.valueOf first) (format.valueOf second)}

variable (format : Format) {first second : ℕ}

theorem valuesBetween_comm :
    format.valuesBetween first second = format.valuesBetween second first := by
  unfold valuesBetween
  rw [min_comm, max_comm]

/-- The values are those with an ordinal. -/
theorem image_valueAt :
    format.valueAt '' {ordinal | ordinal.natAbs ≤ format.infinityOrdinal} = format.values := by
  ext value
  rw [mem_values_iff]
  constructor
  · rintro ⟨ordinal, inside, rfl⟩
    exact ⟨decide (ordinal < 0), ordinal.natAbs, inside, rfl⟩
  · rintro ⟨negative, number, inside, rfl⟩
    refine ⟨signed negative (number : ℤ), ?_, format.valueAt_signed negative number⟩
    rwa [Set.mem_ofPred_eq, natAbs_signed]

/-- As many values are between two patterns as their ordinals are apart. -/
theorem encard_valuesBetween (fits : first < 2 ^ format.totalBits)
    (fits' : second < 2 ^ format.totalBits) (number : format.isNaN first = false)
    (number' : format.isNaN second = false) :
    (format.valuesBetween first second).encard =
      ((format.toOrdinal first - format.toOrdinal second).natAbs : ℕ∞) := by
  have inside := format.natAbs_toOrdinal_le fits number
  have inside' := format.natAbs_toOrdinal_le fits' number'
  have mono := format.valueAt_strictMonoOn
  set range := Set.Ioc (min (format.toOrdinal first) (format.toOrdinal second))
    (max (format.toOrdinal first) (format.toOrdinal second)) with range_eq
  have subset : range ⊆ {ordinal | ordinal.natAbs ≤ format.infinityOrdinal} := by
    rintro ordinal ⟨above, upTo⟩
    rw [Set.mem_ofPred_eq]
    omega
  have least : min (format.toOrdinal first) (format.toOrdinal second) ∈
      {ordinal : ℤ | ordinal.natAbs ≤ format.infinityOrdinal} := by
    rw [Set.mem_ofPred_eq]
    omega
  have greatest : max (format.toOrdinal first) (format.toOrdinal second) ∈
      {ordinal : ℤ | ordinal.natAbs ≤ format.infinityOrdinal} := by
    rw [Set.mem_ofPred_eq]
    omega
  have image : format.valuesBetween first second = format.valueAt '' range := by
    ext value
    rw [valuesBetween, Set.mem_ofPred_eq, format.valueOf_eq_valueAt fits number,
      format.valueOf_eq_valueAt fits' number', ← mono.monotoneOn.map_min inside inside',
      ← mono.monotoneOn.map_max inside inside', ← image_valueAt]
    constructor
    · rintro ⟨⟨ordinal, bound, rfl⟩, above, upTo⟩
      exact ⟨ordinal, ⟨(mono.lt_iff_lt least bound).mp above,
        (mono.le_iff_le bound greatest).mp upTo⟩, rfl⟩
    · rintro ⟨ordinal, between, rfl⟩
      have bound := subset between
      exact ⟨⟨ordinal, bound, rfl⟩, (mono.lt_iff_lt least bound).mpr between.1,
        (mono.le_iff_le bound greatest).mpr between.2⟩
  have size : (max (format.toOrdinal first) (format.toOrdinal second) -
      min (format.toOrdinal first) (format.toOrdinal second)).toNat =
        (format.toOrdinal first - format.toOrdinal second).natAbs := by
    omega
  rw [image, (mono.injOn.mono subset).encard_image, range_eq, ← Finset.coe_Ioc,
    Set.encard_coe_eq_coe_finsetCard, Int.card_Ioc, size]

end LibmAudit.Format
