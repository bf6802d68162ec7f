/-
**Relaxing a policy adds no failure.**

* `Trial.Agrees.relax`: a result that agrees also does under a relaxed policy.
* `Trial.exists_check`: whether a comparison can be made does not depend on the policy.
* `Table.trials_subset`: a relaxed policy compares fewer outputs.
* `Table.run_relax`: where a run gives a verdict, a run under a relaxed policy gives one too, and
  its failures are among those of the first.
-/

import LibmAudit.Proofs.Check.Trial

namespace LibmAudit

attribute [local instance (high)] instPowNat

variable {table : Table} {lax strict : Policy}

namespace Trial

variable {trial : Trial}

theorem Agrees.relax (relaxes : lax.Relaxes strict) (agrees : trial.Agrees table strict) :
    trial.Agrees table lax := by
  unfold Agrees at agrees ⊢
  split at agrees
  · obtain ⟨actual, converted, accepts⟩ := agrees
    exact ⟨actual, converted, accepts.relax relaxes⟩
  · exact agrees

/-- A comparison that can be made can be made under every policy. -/
theorem exists_check (stored : table.IsSound) (sound : trial.IsSound table) {found : Tally}
    (checked : trial.check table strict = .ok found) :
    ∃ found, trial.check table lax = .ok found := by
  cases expected : trial.expected with
  | int value =>
    rw [check_int expected] at checked
    exact ⟨found, (check_int expected).trans checked⟩
  | float pattern =>
    cases converted : trial.result.toFormat table.context.format with
    | error fault =>
      rw [check_float_of_error expected converted] at checked
      exact absurd checked nofun
    | ok actual =>
      obtain ⟨found, same, -⟩ := check_float lax stored sound expected converted
      exact ⟨found, same⟩

end Trial

/-! ## Runs -/

/-- A relaxed policy compares fewer outputs. -/
theorem Table.trials_subset (relaxes : lax.Relaxes strict) (results : List (Except Fault Value)) :
    table.trials lax results ⊆ table.trials strict results := by
  intro trial member
  obtain ⟨vector, result, pair, position, wanted, output, flag, rest⟩ := mem_trials_iff.mp member
  exact mem_trials_iff.mpr
    ⟨vector, result, pair, position, wanted, output, relaxes.checked position flag, rest⟩

/-- Where a run gives a verdict, a run under a relaxed policy gives one too, of as many vectors.
Each output of a vector that fails there fails in the first run. So if this passes, the relaxed one
does. -/
theorem Table.run_relax {routine : Routine} {context : Context} {rows : List Value}
    {name : Option String} (rowsSound : ∀ row ∈ rows, row.IsSound)
    (built : ofRows routine context rows name = .ok table) (relaxes : lax.Relaxes strict)
    {results : List (Except Fault Value)} (sound : ∀ value, .ok value ∈ results → value.IsSound)
    {mode : Mode} {verdict : Verdict} (ran : table.run strict mode results = .ok verdict) :
    ∃ relaxed, table.run lax mode results = .ok relaxed ∧ relaxed.ran = verdict.ran ∧
      (∀ index output, relaxed.Fails index output → verdict.Fails index output) ∧
      (verdict.passed = true → relaxed.passed = true) := by
  have stored := isSound_of_ofRows rowsSound built
  obtain ⟨width, shaped, each, rfl⟩ := run_eq_ok_iff.mp ran
  have fewer := table.trials_subset relaxes results
  have each' : ∀ trial ∈ table.trials lax results, ∃ found, trial.check table lax = .ok found := by
    intro trial member
    obtain ⟨found, checked⟩ := each trial (fewer member)
    exact Trial.exists_check stored (isSound_of_mem_trials stored sound member) checked
  have fails : ∀ index output, (table.account lax mode results).Fails index output →
      (table.account strict mode results).Fails index output := by
    intro index output failing
    -- The output is compared in the first run too, and agrees there no more than here.
    obtain ⟨trial, member, differs, names⟩ := (fails_iff stored sound each').mp failing
    exact (fails_iff stored sound each).mpr
      ⟨trial, fewer member, mt (Trial.Agrees.relax relaxes) differs, names⟩
  refine ⟨table.account lax mode results,
    run_eq_ok_iff.mpr ⟨relaxes.width.trans width, shaped, each', rfl⟩, rfl, fails, fun passed => ?_⟩
  rw [Verdict.passed_iff] at passed ⊢
  by_contra failing
  obtain ⟨failure, member⟩ := List.exists_mem_of_ne_nil _ failing
  obtain ⟨other, member', -⟩ := fails _ _ ⟨failure, member, rfl, rfl⟩
  rw [passed] at member'
  exact absurd member' List.not_mem_nil

/-- A zero of the wrong sign fails, and does not where signs of zeros do not count. -/
theorem Table.run_relax_zero :
    ∃ table verdict relaxed,
      ofRows .sqrt ⟨Format.half, .nearestEven, []⟩ [.tuple [.bits 0, .bits 0]] (some "zeros") =
          .ok table ∧
        table.run (.default .sqrt) .nearestEven [.ok (.scalar .half 32768)] = .ok verdict ∧
        table.run { Policy.default .sqrt with signedZero := false } .nearestEven
          [.ok (.scalar .half 32768)] = .ok relaxed ∧
        verdict.Fails 0 0 ∧ ¬ relaxed.Fails 0 0 ∧ relaxed.ran = verdict.ran ∧
        ∀ index output, relaxed.Fails index output → verdict.Fails index output := by
  have built : ofRows .sqrt ⟨Format.half, .nearestEven, []⟩ [.tuple [.bits 0, .bits 0]]
      (some "zeros") = .ok ⟨.sqrt, ⟨Format.half, .nearestEven, []⟩, "zeros",
        [⟨0, [.float 0], [some (.float 0)]⟩]⟩ := rfl
  have rowsSound : ∀ row ∈ [Value.tuple [.bits 0, .bits 0]], row.IsSound := by
    intro row member
    rw [List.mem_singleton.mp member]
    exact ⟨trivial, trivial, trivial⟩
  have sound : ∀ value, .ok value ∈ [(.ok (.scalar .half 32768) : Except Fault Value)] →
      value.IsSound := by
    intro value member
    rw [Except.ok.inj (List.mem_singleton.mp member)]
    exact (by decide : 32768 < 2 ^ Carrier.half.format.totalBits)
  have relaxes : Policy.Relaxes { Policy.default .sqrt with signedZero := false }
      (.default .sqrt) :=
    ⟨Nat.le_refl _, fun _ => rfl, id, rfl, fun _ => id⟩
  have strict : run ⟨.sqrt, ⟨Format.half, .nearestEven, []⟩, "zeros",
      [⟨0, [.float 0], [some (.float 0)]⟩]⟩ (.default .sqrt) .nearestEven
        [.ok (.scalar .half 32768)] = .ok ⟨.sqrt, ⟨Format.half, .nearestEven, []⟩, 1,
          [⟨0, 0, [.float 0], .float 0, some (.float 32768), .special, none,
            "zero of the wrong sign"⟩], 0, .nearestEven, .default .sqrt⟩ := rfl
  obtain ⟨relaxed, lax, ran, fewer, -⟩ := run_relax rowsSound built relaxes sound strict
  refine ⟨_, _, relaxed, built, strict, lax, ⟨_, List.mem_cons_self, rfl, rfl⟩, ?_, ran, fewer⟩
  rw [← Except.ok.inj lax]
  rintro ⟨failure, member, -⟩
  exact absurd member List.not_mem_nil

end LibmAudit
