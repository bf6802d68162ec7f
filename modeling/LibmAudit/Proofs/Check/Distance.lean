/-
**The distance is a count of real numbers.**

Two finite patterns are as many steps apart as the format has real numbers above the lesser value,
up to the greater one. This is a metric on each side of zero, and only there: nonzero values of
opposite signs are unbounded apart, although both have a distance from zero.

* `Format.realsBetween`: the numbers that are counted. `Format.encard_realsBetween`: how many.
* `ordinalDistance_comm`, `ordinalDistance_eq_zero_iff`, `ordinalDistance_triangle`,
  `ordinalDistance_chain`: the laws, for ordinals.
* `Format.OneSidedChain`: finite values that rise, or fall, on one side of zero.
* `Format.distance_laws`: the laws, for patterns and their values.
-/

import LibmAudit.Proofs.Check.Judgement
import LibmAudit.Proofs.Order.Finite

namespace LibmAudit

attribute [local instance (high)] instPowNat

/-- A distance as a number of steps, infinite if it is unbounded. -/
def Distance.toENat : Distance → ℕ∞
  | steps count => count
  | unbounded => ⊤

/-- Nonzero numbers of opposite signs. -/
def AcrossZero {α : Type} [Zero α] [LT α] (first second : α) : Prop :=
  (first < 0 ∧ 0 < second) ∨ (0 < first ∧ second < 0)

namespace Format

/-- The representable real numbers above the lesser value of two finite patterns, up to the greater
one. -/
def realsBetween (format : Format) (first second : ℕ) : Set ℝ :=
  {value | (∃ pattern : ℕ, pattern < 2 ^ format.totalBits ∧ format.isFinite pattern = true ∧
      format.realOf pattern = value) ∧
    min (format.realOf first) (format.realOf second) < value ∧
    value ≤ max (format.realOf first) (format.realOf second)}

/-- Finite values, one after the other, that rise or fall on one side of zero. -/
structure OneSidedChain (format : Format) (chain : ℕ → ℕ) (length : ℕ) : Prop where
  fits : ∀ link ≤ length, chain link < 2 ^ format.totalBits
  finite : ∀ link ≤ length, format.isFinite (chain link) = true
  oneSided : (∀ link ≤ length, 0 ≤ format.realOf (chain link)) ∨
    (∀ link ≤ length, format.realOf (chain link) ≤ 0)
  monotone : (∀ link < length, format.realOf (chain link) ≤ format.realOf (chain (link + 1))) ∨
    (∀ link < length, format.realOf (chain (link + 1)) ≤ format.realOf (chain link))

/-! ## Ordinals -/

theorem ordinalDistance_comm (first second : ℤ) :
    ordinalDistance first second = ordinalDistance second first := by
  have turned : (first - second).natAbs = (second - first).natAbs := by omega
  unfold ordinalDistance
  rw [turned]
  exact if_congr (by tauto) rfl rfl

theorem ordinalDistance_eq_unbounded_iff (first second : ℤ) :
    ordinalDistance first second = .unbounded ↔ AcrossZero first second := by
  unfold ordinalDistance AcrossZero
  simp only [ne_eq, decide_eq_decide]
  split
  · exact iff_of_true rfl (by omega)
  · exact iff_of_false nofun (by omega)

/-- On one side of zero the difference counts. -/
theorem ordinalDistance_of_alike {first second : ℤ} (alike : ¬ AcrossZero first second) :
    ordinalDistance first second = .steps (first - second).natAbs := by
  unfold AcrossZero at alike
  unfold ordinalDistance
  simp only [ne_eq, decide_eq_decide]
  exact if_neg (by omega)

theorem ordinalDistance_eq_zero_iff (first second : ℤ) :
    ordinalDistance first second = .steps 0 ↔ first = second := by
  unfold ordinalDistance
  split
  · next apart => exact iff_of_false nofun fun same => apart.2.2 (by rw [same])
  · rw [Distance.steps.injEq]
    omega

/-- Where the direct way is not across zero, no detour is shorter. -/
theorem ordinalDistance_triangle {first last : ℤ} (middle : ℤ) (alike : ¬ AcrossZero first last) :
    (ordinalDistance first last).toENat ≤
      (ordinalDistance first middle).toENat + (ordinalDistance middle last).toENat := by
  rw [ordinalDistance_of_alike alike]
  by_cases detour : AcrossZero first middle
  · rw [(ordinalDistance_eq_unbounded_iff first middle).mpr detour]
    exact le_top.trans_eq (top_add _).symm
  · by_cases detour' : AcrossZero middle last
    · rw [(ordinalDistance_eq_unbounded_iff middle last).mpr detour']
      exact le_top.trans_eq (add_top _).symm
    · rw [ordinalDistance_of_alike detour, ordinalDistance_of_alike detour']
      have shorter : (first - last).natAbs ≤ (first - middle).natAbs + (middle - last).natAbs := by
        omega
      change ((first - last).natAbs : ℕ∞) ≤ (first - middle).natAbs + (middle - last).natAbs
      exact_mod_cast shorter

/-- The links of a rising chain add up, by induction on their number. -/
theorem natAbs_sub_of_rising {ordinals : ℕ → ℤ} {length : ℕ}
    (rising : ∀ link < length, ordinals link ≤ ordinals (link + 1)) :
    ordinals 0 ≤ ordinals length ∧ (ordinals 0 - ordinals length).natAbs =
      ∑ link ∈ Finset.range length, (ordinals link - ordinals (link + 1)).natAbs := by
  induction length with
  | zero => simp
  | succ length shorter =>
    obtain ⟨below, sum⟩ := shorter fun link inside => rising link (by omega)
    have last := rising length (by omega)
    rw [Finset.sum_range_succ, ← sum]
    omega

/-- So do those of a falling one. -/
theorem natAbs_sub_of_falling {ordinals : ℕ → ℤ} {length : ℕ}
    (falling : ∀ link < length, ordinals (link + 1) ≤ ordinals link) :
    (ordinals 0 - ordinals length).natAbs =
      ∑ link ∈ Finset.range length, (ordinals link - ordinals (link + 1)).natAbs := by
  have mirrored := (@natAbs_sub_of_rising (fun link => -ordinals link) length
    fun link inside => neg_le_neg (falling link inside)).2
  have turned (first second : ℤ) : (-first - -second).natAbs = (first - second).natAbs := by omega
  simpa only [turned] using mirrored

/-- Distances along a chain that rises or falls on one side of zero add up. -/
theorem ordinalDistance_chain {ordinals : ℕ → ℤ} {length : ℕ}
    (oneSided : (∀ link ≤ length, 0 ≤ ordinals link) ∨ (∀ link ≤ length, ordinals link ≤ 0))
    (monotone : (∀ link < length, ordinals link ≤ ordinals (link + 1)) ∨
      (∀ link < length, ordinals (link + 1) ≤ ordinals link)) :
    ∃ steps : ℕ → ℕ,
      (∀ link < length, ordinalDistance (ordinals link) (ordinals (link + 1)) =
        .steps (steps link)) ∧
      ordinalDistance (ordinals 0) (ordinals length) =
        .steps (∑ link ∈ Finset.range length, steps link) := by
  have alike (first second : ℕ) (inside : first ≤ length) (inside' : second ≤ length) :
      ¬ AcrossZero (ordinals first) (ordinals second) := by
    unfold AcrossZero
    rcases oneSided with above | below
    · have := above first inside
      have := above second inside'
      omega
    · have := below first inside
      have := below second inside'
      omega
  have sum : (ordinals 0 - ordinals length).natAbs =
      ∑ link ∈ Finset.range length, (ordinals link - ordinals (link + 1)).natAbs :=
    monotone.elim (fun rising => (natAbs_sub_of_rising rising).2) natAbs_sub_of_falling
  refine ⟨fun link => (ordinals link - ordinals (link + 1)).natAbs, fun link inside => ?_, ?_⟩
  · exact ordinalDistance_of_alike (alike link (link + 1) (by omega) (by omega))
  · rw [ordinalDistance_of_alike (alike 0 length (by omega) le_rfl), sum]

/-! ## Values -/

variable (format : Format) {first second : ℕ}

theorem acrossZero_iff (fits : first < 2 ^ format.totalBits)
    (fits' : second < 2 ^ format.totalBits) (finite : format.isFinite first = true)
    (finite' : format.isFinite second = true) :
    AcrossZero (format.realOf first) (format.realOf second) ↔
      AcrossZero (format.toOrdinal first) (format.toOrdinal second) := by
  obtain ⟨negative, positive⟩ := format.realOf_sign fits finite
  obtain ⟨negative', positive'⟩ := format.realOf_sign fits' finite'
  unfold AcrossZero
  rw [negative, positive, negative', positive']

/-- Between finite values all values are finite. -/
theorem image_realsBetween (finite : format.isFinite first = true)
    (finite' : format.isFinite second = true) :
    Real.toEReal '' format.realsBetween first second = format.valuesBetween first second := by
  have least := EReal.coe_strictMono.monotone.map_min (a := format.realOf first)
    (b := format.realOf second)
  have greatest := EReal.coe_strictMono.monotone.map_max (a := format.realOf first)
    (b := format.realOf second)
  ext value
  rw [valuesBetween, Set.mem_ofPred_eq, format.valueOf_of_finite finite,
    format.valueOf_of_finite finite', ← least, ← greatest]
  constructor
  · rintro ⟨real, ⟨⟨pattern, fits, real_finite, rfl⟩, above, upTo⟩, rfl⟩
    exact ⟨⟨pattern, fits, format.isNaN_of_finite real_finite,
      format.valueOf_of_finite real_finite⟩, EReal.coe_lt_coe_iff.mpr above,
      EReal.coe_le_coe_iff.mpr upTo⟩
  · rintro ⟨⟨pattern, fits, number, rfl⟩, above, upTo⟩
    have real_finite : format.isFinite pattern = true :=
      format.isFinite_of_valueOf number (upTo.trans_lt (EReal.coe_lt_top _)).ne
        ((EReal.bot_lt_coe _).trans above).ne'
    rw [format.valueOf_of_finite real_finite] at above upTo ⊢
    exact ⟨_, ⟨⟨pattern, fits, real_finite, rfl⟩, EReal.coe_lt_coe_iff.mp above,
      EReal.coe_le_coe_iff.mp upTo⟩, rfl⟩

/-- As many real numbers are between two finite patterns as their ordinals are apart. -/
theorem encard_realsBetween (fits : first < 2 ^ format.totalBits)
    (fits' : second < 2 ^ format.totalBits) (finite : format.isFinite first = true)
    (finite' : format.isFinite second = true) :
    (format.realsBetween first second).encard =
      ((format.toOrdinal first - format.toOrdinal second).natAbs : ℕ∞) := by
  rw [← EReal.coe_injective.encard_image, format.image_realsBetween finite finite']
  exact format.encard_valuesBetween fits fits' (format.isNaN_of_finite finite)
    (format.isNaN_of_finite finite')

/-- Values are a chain if their ordinals are. -/
theorem oneSidedChain_iff {chain : ℕ → ℕ} {length : ℕ}
    (fits : ∀ link ≤ length, chain link < 2 ^ format.totalBits)
    (finite : ∀ link ≤ length, format.isFinite (chain link) = true) :
    format.OneSidedChain chain length ↔
      ((∀ link ≤ length, 0 ≤ format.toOrdinal (chain link)) ∨
        (∀ link ≤ length, format.toOrdinal (chain link) ≤ 0)) ∧
      ((∀ link < length, format.toOrdinal (chain link) ≤ format.toOrdinal (chain (link + 1))) ∨
        (∀ link < length,
          format.toOrdinal (chain (link + 1)) ≤ format.toOrdinal (chain link))) := by
  have nonneg (link : ℕ) (inside : link ≤ length) :
      0 ≤ format.realOf (chain link) ↔ 0 ≤ format.toOrdinal (chain link) := by
    rw [← not_lt, ← not_lt, (format.realOf_sign (fits link inside) (finite link inside)).1]
  have nonpos (link : ℕ) (inside : link ≤ length) :
      format.realOf (chain link) ≤ 0 ↔ format.toOrdinal (chain link) ≤ 0 := by
    rw [← not_lt, ← not_lt, (format.realOf_sign (fits link inside) (finite link inside)).2]
  have order (link link' : ℕ) (inside : link ≤ length) (inside' : link' ≤ length) :=
    format.realOf_le_iff (fits link inside) (fits link' inside') (finite link inside)
      (finite link' inside')
  have sides := or_congr (forall₂_congr nonneg) (forall₂_congr nonpos)
  have directions := or_congr
    (forall₂_congr fun link (inside : link < length) => order link (link + 1) (by omega) (by omega))
    (forall₂_congr fun link (inside : link < length) => order (link + 1) link (by omega) (by omega))
  exact ⟨fun links => ⟨sides.mp links.oneSided, directions.mp links.monotone⟩,
    fun ordinals => ⟨fits, finite, sides.mpr ordinals.1, directions.mpr ordinals.2⟩⟩

/-! ## The laws -/

theorem distance_isError_iff (first second : ℕ) :
    (∃ fault, format.distance first second = .error fault) ↔
      ¬ (format.isFinite first = true ∧ format.isFinite second = true) := by
  unfold distance
  rw [← Bool.and_eq_true]
  split
  · next finite => exact iff_of_false nofun fun special => special finite
  · next special => exact iff_of_true ⟨_, rfl⟩ special

/-- The distance of two patterns fails exactly where one is not finite. It is unbounded for nonzero
values of opposite signs, and else the number of real numbers above the lesser value, up to the
greater one. So it is symmetric, zero for equal values only, and adds up along a chain of values on
one side of zero; and no detour is shorter than a direct way that is not across zero. -/
theorem distance_laws :
    (∀ first second : ℕ, first < 2 ^ format.totalBits → second < 2 ^ format.totalBits →
      (∀ fault, format.distance first second = .error fault → fault.category = .value) ∧
      ((∃ fault, format.distance first second = .error fault) ↔
        ¬ (format.isFinite first = true ∧ format.isFinite second = true)) ∧
      (format.distance first second = .ok .unbounded ↔
        (format.isFinite first = true ∧ format.isFinite second = true) ∧
          AcrossZero (format.realOf first) (format.realOf second)) ∧
      (format.isFinite first = true → format.isFinite second = true →
        (¬ AcrossZero (format.realOf first) (format.realOf second) →
          ∃ count, format.distance first second = .ok (.steps count) ∧
            (format.realsBetween first second).encard = count) ∧
        format.distance first second = format.distance second first ∧
        (format.distance first second = .ok (.steps 0) ↔
          format.realOf first = format.realOf second))) ∧
    (∀ first middle last : ℕ, first < 2 ^ format.totalBits → middle < 2 ^ format.totalBits →
      last < 2 ^ format.totalBits → format.isFinite first = true → format.isFinite middle = true →
      format.isFinite last = true → ¬ AcrossZero (format.realOf first) (format.realOf last) →
        ∃ direct toMiddle fromMiddle, format.distance first last = .ok direct ∧
          format.distance first middle = .ok toMiddle ∧
          format.distance middle last = .ok fromMiddle ∧
          direct.toENat ≤ toMiddle.toENat + fromMiddle.toENat) ∧
    (∀ (chain : ℕ → ℕ) (length : ℕ), format.OneSidedChain chain length →
      ∃ steps : ℕ → ℕ,
        (∀ link < length, format.distance (chain link) (chain (link + 1)) =
          .ok (.steps (steps link))) ∧
        format.distance (chain 0) (chain length) =
          .ok (.steps (∑ link ∈ Finset.range length, steps link))) := by
  refine ⟨fun first second fits fits' => ⟨fun fault failed => ?_, format.distance_isError_iff _ _,
    ?_, fun finite finite' => ⟨fun alike => ?_, ?_, ?_⟩⟩, ?_, ?_⟩
  · unfold distance at failed
    split at failed
    · cases failed
    · cases failed
      rfl
  · by_cases finite : format.isFinite first = true ∧ format.isFinite second = true
    · rw [and_iff_right finite, format.distance_of_finite finite.1 finite.2, Except.ok.injEq,
        ordinalDistance_eq_unbounded_iff, format.acrossZero_iff fits fits' finite.1 finite.2]
    · obtain ⟨fault, failed⟩ := (format.distance_isError_iff first second).mpr finite
      rw [failed]
      exact iff_of_false nofun fun both => finite both.1
  · rw [format.acrossZero_iff fits fits' finite finite'] at alike
    rw [format.distance_of_finite finite finite', ordinalDistance_of_alike alike]
    exact ⟨_, rfl, format.encard_realsBetween fits fits' finite finite'⟩
  · rw [format.distance_of_finite finite finite', format.distance_of_finite finite' finite,
      ordinalDistance_comm]
  · rw [format.distance_of_finite finite finite', Except.ok.injEq, ordinalDistance_eq_zero_iff,
      le_antisymm_iff, le_antisymm_iff, format.realOf_le_iff fits fits' finite finite',
      format.realOf_le_iff fits' fits finite' finite]
  · intro first middle last fits fits' fits'' finite finite' finite'' alike
    rw [format.acrossZero_iff fits fits'' finite finite''] at alike
    exact ⟨_, _, _, format.distance_of_finite finite finite'',
      format.distance_of_finite finite finite', format.distance_of_finite finite' finite'',
      ordinalDistance_triangle _ alike⟩
  · intro chain length links
    obtain ⟨oneSided, monotone⟩ := (format.oneSidedChain_iff links.fits links.finite).mp links
    obtain ⟨steps, each, whole⟩ := ordinalDistance_chain oneSided monotone
    refine ⟨steps, fun link inside => ?_, ?_⟩
    · rw [format.distance_of_finite (links.finite link (by omega))
        (links.finite (link + 1) (by omega)), each link inside]
    · rw [format.distance_of_finite (links.finite 0 (by omega)) (links.finite length le_rfl), whole]

/-- In the half format 1024 numbers lead from 1 to 2, and the way by way of the least subnormal
number below zero is no shorter. Around the least normal number neighbours are one step apart. -/
theorem distance_laws_half :
    (half.realsBetween 0x3c00 0x4000).encard = 1024 ∧
      (∃ direct toMiddle fromMiddle, half.distance 0x3c00 0x4000 = .ok direct ∧
        half.distance 0x3c00 0x8001 = .ok toMiddle ∧ half.distance 0x8001 0x4000 = .ok fromMiddle ∧
        direct.toENat ≤ toMiddle.toENat + fromMiddle.toENat) ∧
      ∃ steps : ℕ → ℕ,
        (∀ link < 2, half.distance (0x3ff + link : ℕ) (0x3ff + (link + 1) : ℕ) =
          .ok (.steps (steps link))) ∧
        half.distance 0x3ff 0x401 = .ok (.steps (∑ link ∈ Finset.range 2, steps link)) := by
  have alike : ¬ AcrossZero (half.realOf (0x3c00 : ℕ)) (half.realOf (0x4000 : ℕ)) := by
    rw [half.acrossZero_iff (by decide) (by decide) (by decide) (by decide)]
    unfold AcrossZero
    decide
  obtain ⟨count, counted, size⟩ := ((half.distance_laws.1 0x3c00 0x4000 (by decide)
    (by decide)).2.2.2 (by decide) (by decide)).1 alike
  obtain rfl : 1024 = count := Distance.steps.inj (Except.ok.inj counted)
  refine ⟨size, half.distance_laws.2.1 0x3c00 0x8001 0x4000 (by decide) (by decide) (by decide)
    (by decide) (by decide) (by decide) alike, ?_⟩
  refine half.distance_laws.2.2 (fun link => 0x3ff + link) 2 ?_
  rw [half.oneSidedChain_iff (by decide) (by decide)]
  decide

end Format

end LibmAudit
