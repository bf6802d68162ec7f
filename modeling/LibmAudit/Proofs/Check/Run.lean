/-
**The account of a run.**

A run compares the outputs of each result one after the other. What it finds is what each
comparison finds on its own, in their order.

* `Trial`, `Table.trials`: the outputs that a run compares.
* `Trial.check`, `Trial.found`: the comparison of one output on its own. `Trial.check_eq`: what it
  gives.
* `mem_trialsFrom_iff`: which outputs are compared.
* `checkOutputs_eq`, `checkVectors_eq`: a run gathers what its comparisons find.
* `Table.run_eq_ok_iff`: when a run gives a verdict, and which one.
* `Table.account_fails_iff`: an output fails if the comparison of it finds a failure.
-/

import LibmAudit.Proofs.Check.Output

namespace LibmAudit

/-! ## Trials -/

/-- An output that is compared with what is expected. -/
structure Trial where
  vector : Vector
  output : ℕ
  expected : SlotValue
  result : Value

namespace Trial

/-- The comparison of an output on its own. -/
def check (table : Table) (policy : Policy) (trial : Trial) : Except Fault Tally :=
  checkOutput table policy trial.vector trial.output trial.expected trial.result {}

/-- What the comparison finds; nothing if it fails. -/
def found (table : Table) (policy : Policy) (trial : Trial) : Tally :=
  match trial.check table policy with
  | .ok tally => tally
  | .error _ => {}

end Trial

/-- The outputs of a vector that are compared, from an output on. -/
def trialsFrom (vector : Vector) :
    ℕ → List Bool → List (Option SlotValue) → List Value → List Trial
  | output, checked :: flags, expected :: others, result :: results =>
    (if checked then expected.toList.map (⟨vector, output, ·, result⟩) else []) ++
      trialsFrom vector (output + 1) flags others results
  | _, _, _, _ => []

/-- The outputs that a result stands for, none if it has not the shape of the routine. -/
def outputsOf (routine : Routine) (result : Except Fault Value) : List Value :=
  match result >>= unpack routine with
  | .ok outputs => outputs
  | .error _ => []

/-- The outputs that a run compares. -/
def Table.trials (table : Table) (policy : Policy) (results : List (Except Fault Value)) :
    List Trial :=
  (table.vectors.zip results).flatMap fun pair =>
    trialsFrom pair.1 0 policy.checked pair.1.expected (outputsOf table.routine pair.2)

variable {table : Table} {policy : Policy}

/-- The comparison on its own gives what it finds. -/
theorem Trial.check_eq (table : Table) (policy : Policy) (trial : Trial) :
    trial.check table policy =
      (judgeOutput table.routine table.context.format policy trial.expected trial.result).map
        fun judgement => judgement.tally trial.vector trial.output trial.expected := by
  rw [check, checkOutput_eq]
  simp only [Tally.empty_append]

theorem Trial.found_eq {trial : Trial} {tally : Tally}
    (checked : trial.check table policy = .ok tally) : trial.found table policy = tally := by
  rw [found, checked]

theorem Trial.found_of_judged {trial : Trial} {judgement : Judgement}
    (judged : judgeOutput table.routine table.context.format policy trial.expected trial.result =
      .ok judgement) :
    trial.found table policy = judgement.tally trial.vector trial.output trial.expected := by
  refine found_eq ?_
  rw [check_eq, judged]
  rfl

/-- When a comparison can be made, it gives what it finds. -/
theorem Trial.exists_judgement {trial : Trial}
    (checked : ∃ found, trial.check table policy = .ok found) :
    ∃ judgement, judgeOutput table.routine table.context.format policy trial.expected
        trial.result = .ok judgement ∧
      trial.found table policy = judgement.tally trial.vector trial.output trial.expected := by
  obtain ⟨found, checked⟩ := checked
  rw [check_eq] at checked
  obtain ⟨judgement, judged, -⟩ := map_eq_ok_iff.mp checked
  exact ⟨judgement, judged, found_of_judged judged⟩

/-- Just the outputs that are checked and whose expectation is not open are compared. -/
theorem mem_trialsFrom_iff {vector : Vector} {output : ℕ} {flags : List Bool}
    {expected : List (Option SlotValue)} {results : List Value} {trial : Trial} :
    trial ∈ trialsFrom vector output flags expected results ↔
      ∃ position wanted result, flags[position]? = some true ∧
        expected[position]? = some (some wanted) ∧ results[position]? = some result ∧
          trial = ⟨vector, output + position, wanted, result⟩ := by
  induction flags generalizing output expected results with
  | nil => simp [trialsFrom]
  | cons checked flags ih =>
    cases expected with
    | nil => simp [trialsFrom]
    | cons wanted others =>
      cases results with
      | nil => simp [trialsFrom]
      | cons result results =>
        rw [trialsFrom, List.mem_append, ih]
        constructor
        · rintro (here | ⟨position, entry, item, flag, some, found, rfl⟩)
          · cases checked with
            | false => exact absurd here List.not_mem_nil
            | true =>
              obtain ⟨entry, inside, rfl⟩ := List.mem_map.mp here
              exact ⟨0, entry, result, rfl, congrArg _ (Option.mem_toList.mp inside), rfl, rfl⟩
          · exact ⟨position + 1, entry, item, flag, some, found, by rw [Nat.add_right_comm]; rfl⟩
        · rintro ⟨position, entry, item, flag, some, found, rfl⟩
          cases position with
          | zero =>
            obtain rfl := Option.some.inj flag
            obtain rfl := Option.some.inj some
            obtain rfl := Option.some.inj found
            exact Or.inl (List.mem_singleton.mpr rfl)
          | succ position =>
            exact Or.inr ⟨position, entry, item, flag, some, found, by rw [Nat.add_right_comm]; rfl⟩

/-- The outputs that a run compares, by their vectors and results. -/
theorem Table.mem_trials_iff {results : List (Except Fault Value)} {trial : Trial} :
    trial ∈ table.trials policy results ↔
      ∃ vector result, (vector, result) ∈ table.vectors.zip results ∧
        ∃ position wanted output, policy.checked[position]? = some true ∧
          vector.expected[position]? = some (some wanted) ∧
            (outputsOf table.routine result)[position]? = some output ∧
              trial = ⟨vector, position, wanted, output⟩ := by
  unfold trials
  simp only [List.mem_flatMap, Prod.exists, mem_trialsFrom_iff, Nat.zero_add]

/-! ## The run -/

/-- Gathers what trials find, up to the first one that fails. -/
def gather (table : Table) (policy : Policy) (trials : List Trial) (tally : Tally) :
    Except Fault Tally :=
  trials.foldlM (fun tally trial => (trial.check table policy).map tally.append) tally

theorem gather_append (first second : List Trial) (tally : Tally) :
    gather table policy (first ++ second) tally =
      gather table policy first tally >>= gather table policy second :=
  List.foldlM_append

theorem gather_cons (trial : Trial) (rest : List Trial) (tally : Tally) :
    gather table policy (trial :: rest) tally =
      (trial.check table policy).map tally.append >>= gather table policy rest :=
  List.foldlM_cons

/-- What trials find together, after an earlier part of the run. -/
def collect (table : Table) (policy : Policy) (trials : List Trial) (tally : Tally) : Tally :=
  trials.foldl (fun tally trial => tally.append (trial.found table policy)) tally

/-- Trials are gathered if each one can be compared. -/
theorem gather_eq_ok_iff {trials : List Trial} {tally result : Tally} :
    gather table policy trials tally = .ok result ↔
      (∀ trial ∈ trials, ∃ found, trial.check table policy = .ok found) ∧
        collect table policy trials tally = result := by
  induction trials generalizing tally result with
  | nil =>
    rw [gather, List.foldlM_nil, collect, List.foldl_nil]
    exact ⟨fun same => ⟨fun _ member => absurd member List.not_mem_nil, Except.ok.inj same⟩,
      fun both => congrArg Except.ok both.2⟩
  | cons trial rest ih =>
    -- The first trial is compared whatever the tally is, so the rest goes on from any tally.
    rw [gather_cons, List.forall_mem_cons, collect, List.foldl_cons, bind_eq_ok_iff]
    constructor
    · rintro ⟨_, mapped, others⟩
      obtain ⟨found, checked, rfl⟩ := map_eq_ok_iff.mp mapped
      obtain ⟨each, rfl⟩ := ih.mp others
      refine ⟨⟨⟨found, checked⟩, each⟩, ?_⟩
      rw [Trial.found_eq checked]
      rfl
    · rintro ⟨⟨⟨found, checked⟩, each⟩, rfl⟩
      rw [Trial.found_eq checked]
      exact ⟨_, map_eq_ok_iff.mpr ⟨found, checked, rfl⟩, ih.mpr ⟨each, rfl⟩⟩

/-- The outputs of a vector are compared one after the other. -/
theorem checkOutputs_eq (vector : Vector) (output : ℕ) (flags : List Bool)
    (expected : List (Option SlotValue)) (results : List Value) (tally : Tally) :
    checkOutputs table policy vector output flags expected results tally =
      gather table policy (trialsFrom vector output flags expected results) tally := by
  induction flags generalizing output expected results tally with
  | nil => rfl
  | cons checked flags ih =>
    cases expected with
    | nil => rfl
    | cons wanted others =>
      cases results with
      | nil => rfl
      | cons result results =>
        rw [trialsFrom, gather_append]
        unfold checkOutputs
        cases checked with
        | false => exact ih _ _ _ _
        | true =>
          cases wanted with
          | none => exact ih _ _ _ _
          | some entry =>
            have first : gather table policy [⟨vector, output, entry, result⟩] tally =
                checkOutput table policy vector output entry result tally := by
              rw [gather, List.foldlM_cons, Trial.check_eq, checkOutput_eq]
              cases judgeOutput table.routine table.context.format policy entry result <;> rfl
            have rest := funext (ih (output + 1) others results)
            rw [if_pos rfl, Option.toList_some, List.map_singleton, first]
            dsimp only
            rw [rest]

theorem outputsOf_eq {routine : Routine} {result : Except Fault Value} {outputs : List Value}
    (shaped : (result >>= unpack routine) = .ok outputs) : outputsOf routine result = outputs := by
  rw [outputsOf, shaped]

theorem checkVectors_cons (vector : Vector) (vectors : List Vector) (result : Except Fault Value)
    (results : List (Except Fault Value)) (tally : Tally) :
    checkVectors table policy (vector :: vectors) (result :: results) tally =
      (result >>= unpack table.routine) >>= fun outputs =>
        gather table policy (trialsFrom vector 0 policy.checked vector.expected outputs) tally >>=
          checkVectors table policy vectors results := by
  rw [checkVectors, bind_assoc]
  simp only [checkOutputs_eq]

/-- The results of a run have the shape of the routine, one for each vector. -/
def Table.Shaped (table : Table) (vectors : List Vector) (results : List (Except Fault Value)) :
    Prop :=
  ∀ pair ∈ vectors.zip results, ∃ outputs, (pair.2 >>= unpack table.routine) = .ok outputs

/-- A run over results of the right shape compares their outputs one after the other. -/
theorem checkVectors_eq {vectors : List Vector} {results : List (Except Fault Value)}
    (shaped : table.Shaped vectors results) (tally : Tally) :
    checkVectors table policy vectors results tally =
      gather table policy ((vectors.zip results).flatMap fun pair =>
        trialsFrom pair.1 0 policy.checked pair.1.expected (outputsOf table.routine pair.2))
        tally := by
  induction vectors generalizing results tally with
  | nil => rfl
  | cons vector vectors ih =>
    cases results with
    | nil => rfl
    | cons result results =>
      rw [Table.Shaped, List.zip_cons_cons, List.forall_mem_cons] at shaped
      obtain ⟨⟨outputs, here⟩, others⟩ := shaped
      rw [checkVectors_cons, List.zip_cons_cons, List.flatMap_cons, gather_append,
        outputsOf_eq here, here]
      exact congrArg _ (funext (ih others))

/-- A run ends where a result has not the right shape. -/
theorem shaped_of_checkVectors {vectors : List Vector} {results : List (Except Fault Value)}
    {tally final : Tally} (checked : checkVectors table policy vectors results tally = .ok final) :
    table.Shaped vectors results := by
  induction vectors generalizing results tally with
  | nil => exact fun _ member => absurd member List.not_mem_nil
  | cons vector vectors ih =>
    cases results with
    | nil => exact fun _ member => absurd member List.not_mem_nil
    | cons result results =>
      rw [checkVectors_cons, bind_eq_ok_iff] at checked
      obtain ⟨outputs, here, compared⟩ := checked
      obtain ⟨middle, -, rest⟩ := bind_eq_ok_iff.mp compared
      rw [Table.Shaped, List.zip_cons_cons, List.forall_mem_cons]
      exact ⟨⟨outputs, here⟩, ih rest⟩

/-! ## The verdict -/

/-- An output of a vector has a failure. -/
def Verdict.Fails (verdict : Verdict) (index output : ℕ) : Prop :=
  ∃ failure ∈ verdict.failures, failure.index = index ∧ failure.output = output

theorem Verdict.passed_iff {verdict : Verdict} :
    verdict.passed = true ↔ verdict.failures = [] := by
  rw [passed, failed, beq_iff_eq, List.length_eq_zero_iff]
  cases verdict.failures with
  | nil => exact iff_of_true rfl rfl
  | cons failure rest =>
    rw [List.map_cons, List.eraseDups_cons]
    exact iff_of_false nofun nofun

namespace Table

/-- The account of all comparisons of a run. -/
def account (table : Table) (policy : Policy) (mode : Mode)
    (results : List (Except Fault Value)) : Verdict :=
  let tally := collect table policy (table.trials policy results) {}
  ⟨table.routine, table.context, min table.vectors.length results.length, tally.failures,
    tally.maxUlps, mode, policy⟩

/-- A run over results of the right shape gathers what its comparisons find. -/
theorem run_eq {mode : Mode} {results : List (Except Fault Value)}
    (wide : policy.checked.length = table.routine.shape.outputs.length)
    (shaped : table.Shaped table.vectors results) :
    table.run policy mode results =
      (gather table policy (table.trials policy results) {}).map fun tally =>
        ⟨table.routine, table.context, min table.vectors.length results.length, tally.failures,
          tally.maxUlps, mode, policy⟩ := by
  unfold run
  dsimp only
  rw [if_neg (not_not.mpr wide), checkVectors_eq shaped]
  rfl

/-- A run gives the account of its comparisons, if each of them can be made. -/
theorem run_eq_ok_iff {mode : Mode} {results : List (Except Fault Value)} {verdict : Verdict} :
    table.run policy mode results = .ok verdict ↔
      policy.checked.length = table.routine.shape.outputs.length ∧
        table.Shaped table.vectors results ∧
        (∀ trial ∈ table.trials policy results, ∃ found, trial.check table policy = .ok found) ∧
          verdict = table.account policy mode results := by
  constructor
  · intro ran
    have both := ran
    unfold run at both
    dsimp only at both
    split at both
    · exact absurd both nofun
    · next wide =>
      have wide := not_not.mp wide
      obtain ⟨tally, checked, -⟩ := bind_eq_ok_iff.mp both
      have shaped := shaped_of_checkVectors checked
      rw [run_eq wide shaped] at ran
      obtain ⟨tally, gathered, rfl⟩ := map_eq_ok_iff.mp ran
      obtain ⟨each, rfl⟩ := gather_eq_ok_iff.mp gathered
      exact ⟨wide, shaped, each, rfl⟩
  · rintro ⟨wide, shaped, each, rfl⟩
    rw [run_eq wide shaped]
    exact map_eq_ok_iff.mpr ⟨_, gather_eq_ok_iff.mpr ⟨each, rfl⟩, rfl⟩

end Table

theorem failures_collect (trials : List Trial) (tally : Tally) :
    (collect table policy trials tally).failures =
      tally.failures ++ trials.flatMap fun trial => (trial.found table policy).failures := by
  induction trials generalizing tally with
  | nil => exact (List.append_nil _).symm
  | cons trial rest ih =>
    rw [collect, List.foldl_cons, List.flatMap_cons, ← List.append_assoc]
    exact ih _

/-- The failures of a run are those of its comparisons. -/
theorem Table.account_failures (mode : Mode) (results : List (Except Fault Value)) :
    (table.account policy mode results).failures =
      (table.trials policy results).flatMap fun trial => (trial.found table policy).failures :=
  failures_collect _ {}

/-- A failure names the output that was compared. -/
theorem Trial.of_mem_failures {trial : Trial} {tally : Tally}
    (checked : trial.check table policy = .ok tally) {failure : Failure}
    (member : failure ∈ tally.failures) :
    failure.index = trial.vector.index ∧ failure.output = trial.output ∧
      failure.inputs = trial.vector.inputs ∧ failure.expected = trial.expected := by
  rw [check_eq] at checked
  obtain ⟨judgement, -, rfl⟩ := map_eq_ok_iff.mp checked
  obtain ⟨finding, -, rfl⟩ := Judgement.mem_record_iff.mp member
  exact ⟨rfl, rfl, rfl, rfl⟩

/-- An output fails if the comparison of it finds a failure. -/
theorem Table.account_fails_iff {mode : Mode} {results : List (Except Fault Value)}
    (each : ∀ trial ∈ table.trials policy results,
      ∃ found, trial.check table policy = .ok found) {index output : ℕ} :
    (table.account policy mode results).Fails index output ↔
      ∃ trial ∈ table.trials policy results, (trial.found table policy).failures ≠ [] ∧
        trial.vector.index = index ∧ trial.output = output := by
  unfold Verdict.Fails
  rw [account_failures]
  constructor
  · rintro ⟨failure, member, rfl, rfl⟩
    obtain ⟨trial, inside, member⟩ := List.mem_flatMap.mp member
    obtain ⟨found, checked⟩ := each trial inside
    have names := Trial.of_mem_failures checked (Trial.found_eq checked ▸ member)
    exact ⟨trial, inside, List.ne_nil_of_mem member, names.1.symm, names.2.1.symm⟩
  · rintro ⟨trial, inside, failing, rfl, rfl⟩
    obtain ⟨failure, member⟩ := List.exists_mem_of_ne_nil _ failing
    obtain ⟨found, checked⟩ := each trial inside
    have names := Trial.of_mem_failures checked (Trial.found_eq checked ▸ member)
    exact ⟨failure, List.mem_flatMap.mpr ⟨trial, inside, member⟩, names.1, names.2.1⟩

end LibmAudit
