/-
**The account that a verdict gives.**

A verdict lists the failures of its run in their order, each with the inputs and the expected entry
of its vector, counts the vectors that fail, and tells the greatest distance that was measured.

* `Table.Compares`: the outputs that a run compares. `Table.mem_trials_iff_compares`: they are its
  trials.
* `Trial.Precedes`, `Table.trials_pairwise`: the order of the trials.
* `Verdict.failed_eq`: the number of vectors that fail.
* `Table.Accounts`, `Table.accounts_of_account`: a verdict is the account of a run.
-/

import LibmAudit.Proofs.Check.Run

namespace LibmAudit

/-! ## Which outputs are compared -/

variable {table : Table} {policy : Policy} {results : List (Except Fault Value)}

/-- A run compares an output of a vector: the output is checked, something is expected of it, and
the function under test returns it. -/
structure Table.Compares (table : Table) (policy : Policy) (results : List (Except Fault Value))
    (index output : ℕ) (vector : Vector) (wanted : SlotValue) (returned : Value) : Prop where
  isVector : table.vectors[index]? = some vector
  isChecked : policy.checked[output]? = some true
  isWanted : vector.expected[output]? = some (some wanted)
  isReturned : ∃ result outputs, results[index]? = some (.ok result) ∧
    unpack table.routine result = .ok outputs ∧ outputs[output]? = some returned

/-- The trials of a run are the outputs that it compares. -/
theorem Table.mem_trials_iff_compares {trial : Trial} :
    trial ∈ table.trials policy results ↔
      ∃ index, table.Compares policy results index trial.output trial.vector trial.expected
        trial.result := by
  rw [mem_trials_iff]
  constructor
  · rintro ⟨vector, result, pair, output, wanted, returned, checked, expected, found, rfl⟩
    obtain ⟨index, here⟩ := List.mem_iff_getElem?.mp pair
    obtain ⟨isVector, isResult⟩ := List.getElem?_zip_eq_some.mp here
    refine ⟨index, isVector, checked, expected, ?_⟩
    cases shaped : result >>= unpack table.routine with
    | error fault =>
      rw [outputsOf, shaped] at found
      cases found
    | ok outputs =>
      rw [outputsOf_eq shaped] at found
      obtain ⟨value, rfl, unpacked⟩ := bind_eq_ok_iff.mp shaped
      exact ⟨value, outputs, isResult, unpacked, found⟩
  · rintro ⟨index, isVector, checked, expected, value, outputs, isResult, unpacked, found⟩
    have pair : (trial.vector, .ok value) ∈ table.vectors.zip results :=
      List.mem_of_getElem? (List.getElem?_zip_eq_some.mpr ⟨isVector, isResult⟩)
    have shaped : (Except.ok value >>= unpack table.routine) = .ok outputs := unpacked
    refine ⟨trial.vector, .ok value, pair, trial.output, trial.expected, trial.result, checked,
      expected, ?_, rfl⟩
    rwa [outputsOf_eq shaped]

/-! ## The order of a run -/

/-- One trial is made before another: for an earlier vector, or for an earlier output. -/
def Trial.Precedes (first second : Trial) : Prop :=
  first.vector.index < second.vector.index ∨
    (first.vector.index = second.vector.index ∧ first.output < second.output)

/-- One failure is recorded before another. -/
def Failure.Precedes (first second : Failure) : Prop :=
  first.index < second.index ∨ (first.index = second.index ∧ first.output < second.output)

/-- Each vector is numbered by its position. -/
def Table.IsNumbered (table : Table) : Prop :=
  ∀ (index : ℕ) (vector : Vector), table.vectors[index]? = some vector → vector.index = index

/-- The outputs of a vector are compared in their order. -/
theorem trialsFrom_pairwise (vector : Vector) (output : ℕ) (flags : List Bool)
    (expected : List (Option SlotValue)) (returned : List Value) :
    (trialsFrom vector output flags expected returned).Pairwise Trial.Precedes := by
  induction flags generalizing output expected returned with
  | nil => exact .nil
  | cons checked flags ih =>
    cases expected with
    | nil => exact .nil
    | cons wanted others =>
      cases returned with
      | nil => exact .nil
      | cons result rest =>
        rw [trialsFrom, List.pairwise_append]
        refine ⟨?_, ih _ _ _, fun first here second there => ?_⟩
        · cases checked <;> cases wanted <;> simp
        · obtain ⟨position, entry, value, -, -, -, rfl⟩ := mem_trialsFrom_iff.mp there
          have same : first.vector = vector ∧ first.output = output := by
            cases checked with
            | false => exact absurd here List.not_mem_nil
            | true =>
              obtain ⟨entry, -, rfl⟩ := List.mem_map.mp here
              exact ⟨rfl, rfl⟩
          refine Or.inr ⟨congrArg Vector.index same.1, ?_⟩
          dsimp only
          omega

/-- A run goes through the vectors in their order, and through the outputs of each. -/
theorem Table.trials_pairwise (numbered : table.IsNumbered) :
    (table.trials policy results).Pairwise Trial.Precedes := by
  unfold trials
  rw [List.pairwise_flatMap]
  refine ⟨fun pair _ => trialsFrom_pairwise _ _ _ _ _, ?_⟩
  rw [List.pairwise_iff_getElem]
  intro first second inside inside' less x here y there
  obtain ⟨_, _, _, -, -, -, rfl⟩ := mem_trialsFrom_iff.mp here
  obtain ⟨_, _, _, -, -, -, rfl⟩ := mem_trialsFrom_iff.mp there
  have index := numbered first (table.vectors.zip results)[first].1 (by simp [List.getElem_zip])
  have index' := numbered second (table.vectors.zip results)[second].1 (by simp [List.getElem_zip])
  left
  dsimp only
  rwa [index, index']

/-! ## What a run gathers -/

/-- What trials find does not depend on what was found before. -/
theorem collect_eq (trials : List Trial) (tally : Tally) :
    collect table policy trials tally = tally.append (collect table policy trials {}) := by
  induction trials generalizing tally with
  | nil => exact tally.append_empty.symm
  | cons trial rest ih =>
    have cons (start : Tally) : collect table policy (trial :: rest) start =
        collect table policy rest (start.append (trial.found table policy)) := rfl
    rw [cons, cons, ih, ih (Tally.append {} _), Tally.empty_append, Tally.append_assoc]

theorem collect_cons (trial : Trial) (rest : List Trial) :
    collect table policy (trial :: rest) {} =
      (trial.found table policy).append (collect table policy rest {}) := by
  rw [← Tally.empty_append (trial.found table policy)]
  exact collect_eq rest _

/-- The greatest distance is one of those that the trials measure, or zero, and not below any. -/
theorem maxUlps_collect (trials : List Trial) :
    (∀ trial ∈ trials, (trial.found table policy).maxUlps ≤
      (collect table policy trials {}).maxUlps) ∧
    ((collect table policy trials {}).maxUlps = 0 ∨ ∃ trial ∈ trials,
      (collect table policy trials {}).maxUlps = (trial.found table policy).maxUlps) := by
  induction trials with
  | nil => exact ⟨nofun, Or.inl rfl⟩
  | cons trial rest ih =>
    obtain ⟨below, attained⟩ := ih
    rw [collect_cons]
    refine ⟨List.forall_mem_cons.mpr ⟨le_max_left _ _, fun other member =>
      (below other member).trans (le_max_right _ _)⟩, ?_⟩
    rcases le_total (collect table policy rest {}).maxUlps (trial.found table policy).maxUlps with
      less | more
    · exact Or.inr ⟨trial, List.mem_cons_self, max_eq_left less⟩
    · have greatest : ((trial.found table policy).append (collect table policy rest {})).maxUlps =
          (collect table policy rest {}).maxUlps := max_eq_right more
      rw [greatest]
      exact attained.imp_right fun ⟨other, member, same⟩ =>
        ⟨other, List.mem_cons_of_mem _ member, same⟩

/-! ## Vectors that fail -/

theorem length_eraseDups (list : List ℕ) : list.eraseDups.length = list.toFinset.card := by
  -- The number that is taken off first is not among the others that are left.
  induction length : list.length using Nat.strong_induction_on generalizing list with
  | _ _ ih =>
    cases list with
    | nil => rfl
    | cons head rest =>
      have shorter : (rest.filter fun other => !other == head).length < (head :: rest).length :=
        Nat.lt_succ_of_le (List.length_filter_le _ _)
      have apart : head ∉ (rest.filter fun other => !other == head).toFinset := by simp
      have whole : (head :: rest).toFinset =
          insert head (rest.filter fun other => !other == head).toFinset := by
        ext other
        by_cases same : other = head <;> simp [same]
      rw [List.eraseDups_cons, List.length_cons, whole, Finset.card_insert_of_notMem apart,
        ih _ (length ▸ shorter) _ rfl]

/-- The vectors that fail are counted once each. -/
theorem Verdict.failed_eq (verdict : Verdict) :
    verdict.failed = (verdict.failures.map Failure.index).toFinset.card :=
  length_eraseDups _

/-- Where all failures are of vectors below a number, no more vectors fail. -/
theorem Verdict.failed_le {verdict : Verdict} {count : ℕ}
    (below : ∀ failure ∈ verdict.failures, failure.index < count) : verdict.failed ≤ count := by
  rw [failed_eq, ← Finset.card_range count]
  refine Finset.card_le_card fun index member => ?_
  rw [List.mem_toFinset, List.mem_map] at member
  obtain ⟨failure, inside, rfl⟩ := member
  exact Finset.mem_range.mpr (below failure inside)

/-! ## The account -/

/-- A verdict is the account of a run. -/
structure Table.Accounts (table : Table) (policy : Policy) (results : List (Except Fault Value))
    (verdict : Verdict) : Prop where
  ran : verdict.ran = table.vectors.length
  judged : ∀ index output vector wanted returned,
    table.Compares policy results index output vector wanted returned →
      ∃ judgement, judgeOutput table.routine table.context.format policy wanted returned =
        .ok judgement
  failures : ∀ failure, failure ∈ verdict.failures ↔
    ∃ vector wanted returned judgement finding,
      table.Compares policy results failure.index failure.output vector wanted returned ∧
      judgeOutput table.routine table.context.format policy wanted returned = .ok judgement ∧
      judgement.finding = some finding ∧
      failure = ⟨failure.index, failure.output, vector.inputs, wanted, judgement.actual,
        finding.kind, finding.distance, finding.reason⟩
  ordered : verdict.failures.Pairwise Failure.Precedes
  failed : verdict.failed = (verdict.failures.map Failure.index).toFinset.card
  failed_le : verdict.failed ≤ verdict.ran
  measured_le : ∀ index output vector wanted returned judgement count,
    table.Compares policy results index output vector wanted returned →
      judgeOutput table.routine table.context.format policy wanted returned = .ok judgement →
      judgement.distance = some (.steps count) → count ≤ verdict.maxUlps
  maxUlps : verdict.maxUlps = 0 ∨ ∃ index output vector wanted returned judgement,
    table.Compares policy results index output vector wanted returned ∧
      judgeOutput table.routine table.context.format policy wanted returned = .ok judgement ∧
      judgement.distance = some (.steps verdict.maxUlps)

namespace Table

variable (numbered : table.IsNumbered)
  (each : ∀ trial ∈ table.trials policy results, ∃ found, trial.check table policy = .ok found)

include numbered each

/-- The failures of an account are those that the comparisons find. -/
theorem mem_account_failures_iff {mode : Mode} {failure : Failure} :
    failure ∈ (table.account policy mode results).failures ↔
      ∃ vector wanted returned judgement finding,
        table.Compares policy results failure.index failure.output vector wanted returned ∧
        judgeOutput table.routine table.context.format policy wanted returned = .ok judgement ∧
        judgement.finding = some finding ∧
        failure = ⟨failure.index, failure.output, vector.inputs, wanted, judgement.actual,
          finding.kind, finding.distance, finding.reason⟩ := by
  rw [account_failures, List.mem_flatMap]
  constructor
  · rintro ⟨trial, member, inside⟩
    obtain ⟨index, compares⟩ := mem_trials_iff_compares.mp member
    obtain rfl := numbered index trial.vector compares.isVector
    obtain ⟨judgement, judged, found⟩ := Trial.exists_judgement (each trial member)
    rw [found] at inside
    obtain ⟨finding, given, rfl⟩ := Judgement.mem_record_iff.mp inside
    exact ⟨_, _, _, judgement, finding, compares, judged, given, rfl⟩
  · rintro ⟨vector, wanted, returned, judgement, finding, compares, judged, given, same⟩
    have member : ⟨vector, failure.output, wanted, returned⟩ ∈ table.trials policy results :=
      mem_trials_iff_compares.mpr ⟨failure.index, compares⟩
    have index := numbered failure.index vector compares.isVector
    refine ⟨_, member, ?_⟩
    rw [Trial.found_of_judged judged]
    refine Judgement.mem_record_iff.mpr ⟨finding, given, ?_⟩
    rw [index]
    exact same

/-- They are failures of vectors of the table. -/
theorem index_lt_of_mem_account {mode : Mode} {failure : Failure}
    (member : failure ∈ (table.account policy mode results).failures) :
    failure.index < table.vectors.length := by
  obtain ⟨vector, _, _, _, _, compares, -⟩ := (mem_account_failures_iff numbered each).mp member
  exact (List.getElem?_eq_some_iff.mp compares.isVector).1

/-- They are recorded in the order of their vectors and outputs. -/
theorem account_failures_pairwise (mode : Mode) :
    (table.account policy mode results).failures.Pairwise Failure.Precedes := by
  rw [account_failures, List.pairwise_flatMap]
  have judged (trial : Trial) (member : trial ∈ table.trials policy results) :=
    Trial.exists_judgement (each trial member)
  refine ⟨fun trial member => ?_, ?_⟩
  · obtain ⟨judgement, -, found⟩ := judged trial member
    rw [found]
    unfold Judgement.tally Judgement.record
    cases judgement.finding <;> simp
  · refine (trials_pairwise numbered).imp_of_mem fun {first second} member member' before => ?_
    obtain ⟨judgement, -, found⟩ := judged first member
    obtain ⟨judgement', -, found'⟩ := judged second member'
    intro failure here failure' there
    rw [found] at here
    rw [found'] at there
    obtain ⟨_, -, rfl⟩ := Judgement.mem_record_iff.mp here
    obtain ⟨_, -, rfl⟩ := Judgement.mem_record_iff.mp there
    exact before

/-- The verdict of a run is its account. -/
theorem accounts_of_account (count : results.length = table.vectors.length) (mode : Mode) :
    table.Accounts policy results (table.account policy mode results) := by
  have ran : (table.account policy mode results).ran = table.vectors.length :=
    min_eq_left count.ge
  have trialOf {index output : ℕ} {vector : Vector} {wanted : SlotValue} {returned : Value}
      (compares : table.Compares policy results index output vector wanted returned) :
      ⟨vector, output, wanted, returned⟩ ∈ table.trials policy results :=
    mem_trials_iff_compares.mpr ⟨index, compares⟩
  obtain ⟨below, attained⟩ := @maxUlps_collect table policy (table.trials policy results)
  refine ⟨ran, fun index output vector wanted returned compares => ?_,
    fun failure => mem_account_failures_iff numbered each,
    account_failures_pairwise numbered each mode, Verdict.failed_eq _,
    Verdict.failed_le fun failure member => ran.symm ▸ index_lt_of_mem_account numbered each member,
    ?_, ?_⟩
  · obtain ⟨judgement, judged, -⟩ := Trial.exists_judgement (each _ (trialOf compares))
    exact ⟨judgement, judged⟩
  · intro index output vector wanted returned judgement steps compares judged distance
    have le := below _ (trialOf compares)
    rw [Trial.found_of_judged judged] at le
    refine le_trans (le_of_eq ?_) le
    simp only [Judgement.tally, Judgement.steps, distance]
  · rcases attained with zero | ⟨trial, member, same⟩
    · exact Or.inl zero
    · obtain ⟨index, compares⟩ := mem_trials_iff_compares.mp member
      obtain ⟨judgement, judged, found⟩ := Trial.exists_judgement (each trial member)
      rw [found] at same
      change (table.account policy mode results).maxUlps = judgement.steps at same
      rw [same]
      exact judgement.steps_cases.imp_right fun distance =>
        ⟨index, _, _, _, _, judgement, compares, judged, distance⟩

end Table

end LibmAudit
