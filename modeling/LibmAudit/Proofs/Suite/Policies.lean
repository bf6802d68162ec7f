/-
**Policies of a session.**

The options change the default policy of a routine in two fields. The accepted distance stays zero
where the default is zero.

* `accepted`: the accepted distance of a routine.
* `policyFor_eq`: the policy of a routine, which is refused if that distance is negative.
* `Table.run_widened`: where a run finds nothing, a run with a larger tolerance finds nothing.
-/

import LibmAudit.Proofs.Check.Run
import LibmAudit.Suite.Session

namespace LibmAudit

/-! ## The policy of a routine -/

namespace Suite

/-- The accepted distance of a routine, when a distance is given for those that accept one. -/
def accepted (maxUlps : Option ℤ) (routine : Routine) : ℤ :=
  if routine.category.maxUlps = 0 then 0 else maxUlps.getD routine.category.maxUlps

/-- The accepted distance of a policy is changed. -/
theorem change_maxUlps (policy : Policy) (value : ℤ) :
    policy.change [("max_ulps", .int value)] =
      (Tolerance.ofDatum (.int value)).map fun tolerance =>
        { policy with maxUlps := tolerance } := by
  have checked : Policy.truths (.list (policy.checked.map .bool)) = .ok policy.checked := by
    rw [Policy.truths, List.map_map]
    exact congrArg Except.ok (List.map_id _)
  show (Tolerance.ofDatum (.int value) >>= fun maxUlps =>
    Policy.truths (.list (policy.checked.map .bool)) >>= fun checked => _) = _
  rw [checked]
  cases Tolerance.ofDatum (.int value) <;> rfl

variable (maxUlps : Option ℤ) (flushSubnormals : Bool) (routine : Routine)

theorem changeUlps_eq :
    (⟨maxUlps.map .int, flushSubnormals⟩ : Options).changeUlps (.default routine) =
      if accepted maxUlps routine < 0 then refuse (.negativeTolerance (accepted maxUlps routine))
      else .ok { Policy.default routine with
        maxUlps := .steps (accepted maxUlps routine).toNat } := by
  have count : (Policy.default routine).maxUlps.count = routine.category.maxUlps := rfl
  unfold Options.changeUlps
  rw [count]
  cases maxUlps with
  | none =>
    have same : accepted none routine = routine.category.maxUlps := by
      unfold accepted
      split
      · next exact => rw [exact, Nat.cast_zero]
      · rfl
    rw [same, if_neg (by omega), Int.toNat_natCast]
    rfl
  | some value =>
    dsimp only [Option.map]
    by_cases exact : routine.category.maxUlps = 0
    · have same : accepted (some value) routine = 0 := if_pos exact
      rw [same, if_neg (by omega), if_neg (by omega)]
      unfold Policy.default
      rw [exact]
      rfl
    · have same : accepted (some value) routine = value := if_neg exact
      rw [same, if_pos (by omega), change_maxUlps, Tolerance.ofDatum]
      split <;> rfl

/-- The policy of a routine, unless the accepted distance is negative. -/
theorem policyFor_eq :
    (⟨maxUlps.map .int, flushSubnormals⟩ : Options).policyFor routine =
      if accepted maxUlps routine < 0 then refuse (.negativeTolerance (accepted maxUlps routine))
      else .ok { Policy.default routine with
        maxUlps := .steps (accepted maxUlps routine).toNat, flushSubnormals } := by
  unfold Options.policyFor
  rw [changeUlps_eq]
  split
  · unfold refuse
    split <;> rfl
  · cases flushSubnormals <;> rfl

end Suite

/-! ## Larger tolerances -/

variable {policy : Policy} {tolerance : Tolerance} {format : Format}

theorem Distance.within_mono {distance : Distance} {lower upper : ℤ} (wider : lower ≤ upper)
    (near : distance.within lower = true) : distance.within upper = true := by
  cases distance with
  | steps count => exact decide_eq_true ((of_decide_eq_true near).trans wider)
  | unbounded => exact near

section Widened

variable (wider : policy.maxUlps.count ≤ tolerance.count)

include wider

theorem judgeDistance_widened {distance : Distance}
    (judged : judgeDistance policy distance = .ok none) :
    judgeDistance { policy with maxUlps := tolerance } distance = .ok none := by
  cases distance with
  | unbounded => exact absurd judged nofun
  | steps count =>
    unfold judgeDistance at judged ⊢
    dsimp only at judged ⊢
    split at judged
    · next near => rw [if_pos (Distance.within_mono (Int.ofNat_le.mpr wider) near)]
    · split at judged <;> exact absurd judged nofun

theorem judgeFloat_widened {expected actual : ℕ}
    (judged : judgeFloat format policy expected actual = .ok none) :
    judgeFloat format { policy with maxUlps := tolerance } expected actual = .ok none := by
  unfold judgeFloat at judged ⊢
  dsimp only at judged ⊢
  split at judged
  · rfl
  · exact absurd judged nofun
  · obtain ⟨distance, measured, judged⟩ := bind_eq_ok_iff.mp judged
    exact bind_eq_ok_iff.mpr ⟨distance, measured, judgeDistance_widened wider judged⟩

theorem judgeOutput_widened {routine : Routine} {expected : SlotValue} {result : Value}
    {judgement : Judgement}
    (judged : judgeOutput routine format policy expected result = .ok judgement)
    (nothing : judgement.finding = none) :
    judgeOutput routine format { policy with maxUlps := tolerance } expected result =
      .ok judgement := by
  unfold judgeOutput at judged ⊢
  split at judged
  · obtain ⟨actual, converted, judged⟩ := bind_eq_ok_iff.mp judged
    obtain ⟨distance, measures, judged⟩ := bind_eq_ok_iff.mp judged
    obtain ⟨finding, found, same⟩ := bind_eq_ok_iff.mp judged
    obtain rfl := Except.ok.inj same
    obtain rfl : finding = none := nothing
    refine bind_eq_ok_iff.mpr ⟨actual, converted, bind_eq_ok_iff.mpr ⟨distance, measures, ?_⟩⟩
    exact bind_eq_ok_iff.mpr ⟨none, judgeFloat_widened wider found, rfl⟩
  · exact judged

/-- A comparison that finds nothing finds nothing with a larger tolerance. -/
theorem Trial.check_widened {table : Table} {trial : Trial} {found : Tally}
    (checked : trial.check table policy = .ok found) (nothing : found.failures = []) :
    trial.check table { policy with maxUlps := tolerance } = .ok found := by
  rw [check_eq] at checked ⊢
  obtain ⟨judgement, judged, rfl⟩ := map_eq_ok_iff.mp checked
  rw [judgeOutput_widened wider judged (Judgement.failures_tally_eq_nil_iff.mp nothing)]
  rfl

/-- Where a run finds nothing, a run with a larger tolerance finds nothing either. -/
theorem Table.run_widened {table : Table} {mode : Mode} {results : List (Except Fault Value)}
    {verdict : Verdict} (ran : table.run policy mode results = .ok verdict)
    (passes : verdict.passed = true) :
    ∃ widened, table.run { policy with maxUlps := tolerance } mode results = .ok widened ∧
      widened.passed = true := by
  obtain ⟨width, shaped, each, rfl⟩ := run_eq_ok_iff.mp ran
  rw [Verdict.passed_iff, account_failures, List.flatMap_eq_nil_iff] at passes
  have checks (trial : Trial) (member : trial ∈ table.trials policy results) :
      ∃ found, trial.check table { policy with maxUlps := tolerance } = .ok found ∧
        found.failures = [] := by
    obtain ⟨found, checked⟩ := each trial member
    have nothing := passes trial member
    rw [Trial.found_eq checked] at nothing
    exact ⟨found, Trial.check_widened wider checked nothing, nothing⟩
  refine ⟨_, run_eq_ok_iff.mpr ⟨width, shaped, fun trial member => ?_, rfl⟩, ?_⟩
  · obtain ⟨found, checked, -⟩ := checks trial member
    exact ⟨found, checked⟩
  · rw [Verdict.passed_iff, account_failures, List.flatMap_eq_nil_iff]
    intro trial member
    obtain ⟨found, checked, nothing⟩ := checks trial member
    rw [Trial.found_eq checked, nothing]

end Widened

end LibmAudit
