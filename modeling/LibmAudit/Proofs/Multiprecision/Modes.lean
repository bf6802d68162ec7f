/-
**Operations on patterns in the six modes.**

A multiprecision result is cut toward zero whatever the mode is. The modes differ in the rounding of
the cut result into the format, so their results bracket each other.

* `Operation.finish_runsCohere`, `bind_finish_runsCohere`: any result that marks its errors, or the
  fault in its place, rounded in the six modes. Nothing is asked of its value.
* `Operation.evaluateInto_runsCohere`: an operation on patterns in the six modes.
* `Operation.fma_runsCohere`: a product plus a third value. Opposite values give a zero in every
  mode, and its sign may depend on the mode.
* `Operation.inexact_of_sincos`: the sine and the cosine are inexact for the same values.
-/

import LibmAudit.Proofs.Multiprecision.Outcome
import LibmAudit.Proofs.Remainder.Evaluation
import LibmAudit.Proofs.Rounding.Bracket

namespace LibmAudit

attribute [local instance (high)] instPowNat

variable {format : Format}

namespace Operation

theorem finish_eq_map (format : Format) (mode : Mode) (result : Evaluation) :
    finish format mode result =
      (result.number.toPattern format mode (result.ternary != 0) (format.precision + 2)).map
        fun rounded => ⟨rounded.pattern, result.flags.union rounded.flags⟩ := by
  unfold finish
  cases result.number.toPattern format mode (result.ternary != 0) (format.precision + 2) <;> rfl

theorem finish_zero (mode : Mode) (negative : Bool) :
    finish format mode { number := .zero negative } = .ok ⟨format.zero negative, .none⟩ := by
  rw [finish_eq_map, bne_self_eq_false]
  change Except.ok (⟨format.zero negative, Flags.union .none .none⟩ : Rounded) = _
  rw [Flags.union_none]

theorem finish_nan (mode : Mode) (flags : Flags) :
    finish format mode { number := .nan, flags := flags } = .ok ⟨format.quietNaN false, flags⟩ := by
  rw [finish_eq_map]
  change Except.ok (⟨format.quietNaN false, flags.union .none⟩ : Rounded) = _
  rw [Flags.union_none]

theorem finish_infinity (mode : Mode) (negative : Bool) :
    finish format mode { number := .infinity negative } = .ok ⟨format.infinity negative, .none⟩ := by
  rw [finish_eq_map]
  change Except.ok (⟨format.infinity negative, Flags.union .none .none⟩ : Rounded) = _
  rw [Flags.union_none]

/-- Any result that marks its errors, rounded in the six modes. -/
theorem finish_runsCohere {result : Evaluation} (marks : result.MarksErrors) :
    format.RunsCohere false fun mode => finish format mode result := by
  obtain ⟨number, ternary, flags⟩ := result
  simp only [finish_eq_map]
  -- What is no finite number is not marked inexact, so the marks of the cut change nothing.
  have quiet (other : ∀ value, number ≠ .finite value) {run : Mode → Except Fault Rounded}
      (runs : format.RunsCohere false run) : format.RunsCohere false fun mode =>
        (run mode).map fun rounded => ⟨rounded.pattern, flags.union rounded.flags⟩ :=
    runs.raise fun inexact => absurd (marks inexact).2 (not_exists.mpr other)
  cases number with
  | nan | infinity => exact quiet nofun (.const rfl)
  | zero negative =>
    unfold Number.toPattern
    dsimp only
    split
    · exact .error _
    · exact quiet nofun (.const rfl)
  | finite value =>
    -- The error of a marked number is the sticky bit, so that the rounding is inexact as well.
    refine (format.round_runsCohere _ _ _ _).raise fun inexact mode rounded ok => ?_
    rw [bne_iff_ne.mpr (marks inexact).1] at ok
    exact format.round_sticky_inexact ok

/-- Or the fault that stands in its place. -/
theorem bind_finish_runsCohere {result : Except Fault Evaluation}
    (marks : ∀ given, result = .ok given → given.MarksErrors) :
    format.RunsCohere false fun mode => result >>= finish format mode := by
  cases result with
  | error fault => exact .error fault
  | ok given => exact finish_runsCohere (marks given rfl)

/-! ## Operations on patterns -/

variable {operation : Operation} {patterns : List ℕ} {mode : Mode}

/-- The multiprecision result of an operation on patterns, if there is one. -/
theorem evaluateOn_eq_ok {result : Evaluation}
    (ok : operation.evaluateOn format mode patterns = .ok result) :
    result = (operation.apply (patterns.map fun pattern : ℕ => Number.read format pattern)).round
      (format.precision + 2) mode := by
  obtain ⟨numbers, read, rest⟩ := bind_eq_ok_iff.mp ok
  obtain ⟨-, -, evaluated⟩ := bind_eq_ok_iff.mp rest
  rw [← numbersOf_eq_ok read]
  exact (Except.ok.inj evaluated).symm

/-- Whether there is one does not depend on the mode. -/
theorem evaluateOn_mode {result : Evaluation}
    (ok : operation.evaluateOn format .towardZero patterns = .ok result) (mode : Mode) :
    operation.evaluateOn format mode patterns =
      .ok ((operation.apply (patterns.map fun pattern : ℕ => Number.read format pattern)).round
        (format.precision + 2) mode) := by
  obtain ⟨numbers, read, rest⟩ := bind_eq_ok_iff.mp ok
  obtain ⟨_, count, -⟩ := bind_eq_ok_iff.mp rest
  unfold evaluateOn
  rw [read, ← numbersOf_eq_ok read]
  simp only [bind, Except.bind, count]
  rfl

theorem evaluateInto_eq (format : Format) (operation : Operation) (mode : Mode)
    (patterns : List ℕ) :
    operation.evaluateInto format mode false patterns =
      operation.evaluateOn format .towardZero patterns >>= finish format mode := by
  unfold evaluateInto
  cases operation.evaluateOn format .towardZero patterns <;> rfl

theorem evaluateInto_eq_ok {rounded : Rounded}
    (ok : operation.evaluateInto format mode false patterns = .ok rounded) :
    finish format mode
        ((operation.apply (patterns.map fun pattern : ℕ => Number.read format pattern)).round
          (format.precision + 2) .towardZero) = .ok rounded := by
  rw [evaluateInto_eq] at ok
  obtain ⟨result, evaluated, finished⟩ := bind_eq_ok_iff.mp ok
  rwa [← evaluateOn_eq_ok evaluated]

theorem evaluateInto_runsCohere (operation : Operation) (patterns : List ℕ) :
    format.RunsCohere false fun mode => operation.evaluateInto format mode false patterns := by
  simp only [evaluateInto_eq]
  refine bind_finish_runsCohere fun result evaluated => ?_
  rw [evaluateOn_eq_ok evaluated]
  exact Outcome.round_marksErrors _ _

/-- A product plus a third number is an outcome of exact arithmetic above a place. -/
theorem fma_settled {place : ℤ} (nonpos : place ≤ 0) {numbers : List Number}
    (above : ∀ number ∈ numbers, number.From place) :
    (fma.apply numbers).Settled (place + place) := by
  match numbers with
  | [first, second, third] =>
    exact Number.fma_settled nonpos (above _ (by simp)) (above _ (by simp)) (above _ (by simp))
  | [] | [_] | [_, _] | _ :: _ :: _ :: _ :: _ => exact .nan

/-- The product of two patterns plus a third one. An exact zero has the sign of its mode. -/
theorem fma_runsCohere (nonpos : format.lowestPlace ≤ 0)
    (inRange : -exponentLimit ≤ format.lowestPlace + format.lowestPlace) (patterns : List ℕ) :
    format.RunsCohere true fun mode => fma.evaluateInto format mode true patterns := by
  unfold evaluateInto
  cases ok : fma.evaluateOn format .towardZero patterns with
  | error fault => exact .error fault
  | ok result =>
    obtain rfl := evaluateOn_eq_ok ok
    have settled : (fma.apply (patterns.map fun pattern : ℕ => Number.read format pattern)).Settled
        (format.lowestPlace + format.lowestPlace) := by
      refine fma_settled nonpos fun number among => ?_
      obtain ⟨pattern, -, rfl⟩ := List.mem_map.mp among
      exact Number.read_from format pattern
    set outcome := fma.apply (patterns.map fun pattern : ℕ => Number.read format pattern)
    have plain : format.RunsCohere true fun mode =>
        finish format mode (outcome.round (format.precision + 2) .towardZero) :=
      (finish_runsCohere (outcome.round_marksErrors _)).weaken true
    cases number : (outcome.round (format.precision + 2) .towardZero).number with
    | nan | infinity | finite => simpa only [bind, Except.bind, number, pure, Except.pure]
    | zero negative =>
      -- The cut result and the one of each mode are zeros, which may differ in their signs.
      choose sign zeros using settled.round_zero inRange number
      refine Or.inr ⟨fun mode => ⟨format.zero (sign mode), .none⟩, fun mode => ?_,
        .exact (fun _ => rfl) fun mode mode' => Or.inr ⟨rfl, ?_, ?_⟩, fun _ _ => rfl,
        fun _ _ => rfl, fun _ _ => rfl⟩
      · have again : fma.evaluateOn format mode patterns = .ok { number := .zero (sign mode) } :=
          (evaluateOn_mode ok mode).trans (congrArg Except.ok (zeros mode))
        simp only [bind, Except.bind, pure, Except.pure, zeros .towardZero, again]
        exact finish_zero mode (sign mode)
      · exact format.isZero_zero _
      · exact format.isZero_zero _

/-! ## The sine and the cosine -/

/-- A number that is known by its enclosures gives an inexact result. -/
theorem finish_enclosed_inexact {negative : Bool} {enclose : ℕ → Enclosure} {rounded : Rounded}
    (ok : finish format mode ((Outcome.enclosed negative enclose).round (format.precision + 2)
      .towardZero) = .ok rounded) : rounded.flags.inexact = true := by
  obtain ⟨error, number⟩ := @Outcome.round_enclosed (format.precision + 2) negative enclose
  rw [finish_eq_map, bne_iff_ne.mpr error] at ok
  obtain ⟨result, given, rfl⟩ := map_eq_ok_iff.mp ok
  rcases number with ⟨sign, zero⟩ | ⟨value, finite⟩
  · rw [zero] at given
    exact absurd given nofun
  · rw [finite] at given
    rw [Flags.union, format.round_sticky_inexact given, Bool.or_true]

/-- One is a value of the format. -/
theorem finish_one_exact (ranged : format.emax + format.fractionBits < exponentLimit)
    {rounded : Rounded} (ok : finish format mode
      (Number.one.round (format.precision + 2) .towardZero) = .ok rounded) :
    rounded.flags.inexact = false := by
  obtain ⟨ordinal, positive, finite, one⟩ := format.exists_magnitudeAt_eq_one
  have value : Number.one.HasValue (signed false (format.magnitudeAt ordinal)) :=
    ⟨⟨false, 1, 0⟩, rfl, one_ne_zero, by
      simp [one, signed, Dyadic.toReal, Dyadic.magnitude]⟩
  obtain ⟨number, evaluated, -, same⟩ :=
    Outcome.round_of_hasValue .towardZero ranged positive finite value
  rw [evaluated, finish_eq_map, bne_self_eq_false,
    Number.toPattern_of_magnitude mode _ ranged positive finite same] at ok
  rw [← Except.ok.inj ok]
  rfl

/-- The sine and the cosine of a value are both inexact or both exact. -/
theorem inexact_of_sincos (ranged : format.emax + format.fractionBits < exponentLimit)
    {pattern : ℕ} {sine cosine : Rounded}
    (first : sin.evaluateInto format mode false [pattern] = .ok sine)
    (second : cos.evaluateInto format mode false [pattern] = .ok cosine) :
    sine.flags.inexact = cosine.flags.inexact := by
  replace first := evaluateInto_eq_ok first
  replace second := evaluateInto_eq_ok second
  change finish format mode ((Number.read format pattern).sin.round _ _) = _ at first
  change finish format mode ((Number.read format pattern).cos.round _ _) = _ at second
  generalize Number.read format pattern = number at first second
  cases number with
  | nan | infinity =>
    rw [← Except.ok.inj first, ← Except.ok.inj second]
    rfl
  | zero negative =>
    rw [finish_one_exact ranged second, ← Except.ok.inj first]
    rfl
  | finite value => rw [finish_enclosed_inexact first, finish_enclosed_inexact second]

end Operation

end LibmAudit
