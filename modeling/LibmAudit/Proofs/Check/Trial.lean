/-
**When a comparison finds nothing.**

* `Value.isSound_of_mem_unpack`, `isSound_of_mem_outputsOf`: the outputs of a sound result are
  sound.
* `Trial.Agrees`: a result agrees with what is expected, as a pattern or as an integer.
* `Trial.check_float`, `Trial.check_int`: the comparison of an output, by its slot.
* `Trial.failures_eq_nil_iff`: a comparison has no failure just if the result agrees.
* `Trial.IsSound`, `Table.isSound_of_mem_trials`: what a run compares is sound.
* `Table.fails_iff`: the outputs that fail are those that are compared and do not agree.
-/

import LibmAudit.Proofs.Check.Accept
import LibmAudit.Proofs.Check.Conversion
import LibmAudit.Proofs.Check.Run
import LibmAudit.Proofs.Check.Table

namespace LibmAudit

attribute [local instance (high)] instPowNat

/-! ## Outputs -/

/-- What a sound result is unpacked to is sound. -/
theorem Value.isSound_of_mem_unpack {routine : Routine} {value : Value} (sound : value.IsSound)
    {outputs : List Value} (unpacked : unpack routine value = .ok outputs) {output : Value}
    (member : output ∈ outputs) : output.IsSound := by
  unfold unpack at unpacked
  dsimp only at unpacked
  by_cases single : routine.shape.outputs.length = 1
  · rw [if_pos single] at unpacked
    rw [← Except.ok.inj unpacked] at member
    rwa [List.mem_singleton.mp member]
  · rw [if_neg single] at unpacked
    cases value with
    | tuple items =>
      dsimp only at unpacked
      split at unpacked
      · rw [← Except.ok.inj unpacked] at member
        rw [IsSound, allSound_iff] at sound
        exact sound output member
      · simp at unpacked
    | text characters =>
      dsimp only at unpacked
      split at unpacked
      · rw [← Except.ok.inj unpacked] at member
        obtain ⟨char, -, rfl⟩ := List.mem_map.mp member
        trivial
      · simp at unpacked
    | _ => simp [refuse] at unpacked

/-- The outputs of a sound result are sound. -/
theorem Value.isSound_of_mem_outputsOf {routine : Routine} {result : Except Fault Value}
    (sound : ∀ value, result = .ok value → value.IsSound) {output : Value}
    (member : output ∈ outputsOf routine result) : output.IsSound := by
  cases shaped : result >>= unpack routine with
  | error fault =>
    rw [outputsOf, shaped] at member
    exact absurd member List.not_mem_nil
  | ok outputs =>
    rw [outputsOf_eq shaped] at member
    obtain ⟨value, rfl, unpacked⟩ := bind_eq_ok_iff.mp shaped
    exact isSound_of_mem_unpack (sound value rfl) unpacked member

/-! ## Comparisons -/

variable {table : Table} {policy : Policy}

/-- The formats of machine types are narrow. -/
theorem Format.narrow_of_carrier? {format : Format} {carrier : Carrier}
    (stored : format.carrier? = some carrier) : format.totalBits ≤ 13999 := by
  rw [← format_of_carrier? stored]
  cases carrier <;> decide

namespace Trial

/-- The result agrees: its pattern is accepted, or its integer matches. -/
def Agrees (table : Table) (policy : Policy) (trial : Trial) : Prop :=
  match trial.expected with
  | .float pattern => ∃ actual, trial.result.toFormat table.context.format = .ok actual ∧
      table.context.format.Accepts policy pattern actual
  | .int value => ∃ actual, trial.result.toInteger? = some actual ∧
      table.routine.integerMatches value actual = true

/-- The expected pattern and the patterns in the result fit their formats. -/
structure IsSound (table : Table) (trial : Trial) : Prop where
  expected : ∀ pattern, trial.expected = .float pattern →
    pattern < 2 ^ table.context.format.totalBits
  result : trial.result.IsSound

variable {trial : Trial}

/-- A result is compared with a pattern if it is converted, and it has no failure just if it is
accepted. -/
theorem check_float (policy : Policy) (stored : table.IsSound) (sound : trial.IsSound table)
    {pattern actual : ℕ} (float : trial.expected = .float pattern)
    (converted : trial.result.toFormat table.context.format = .ok actual) :
    ∃ found, trial.check table policy = .ok found ∧
      (found.failures = [] ↔ table.context.format.Accepts policy pattern actual) := by
  obtain ⟨carrier, stored⟩ := stored.stored
  have fits := sound.expected pattern float
  have fits' := Value.toFormat_lt sound.result converted
  obtain ⟨distance, measures⟩ := table.context.format.measured_eq_ok policy pattern actual
  obtain ⟨finding, judged, accepted⟩ := table.context.format.judgeFloat_eq_ok
    (Format.narrow_of_carrier? stored) policy fits fits'
  obtain ⟨vector, output, expected, result⟩ := trial
  obtain rfl : expected = .float pattern := float
  refine ⟨Judgement.tally ⟨some (.float actual), distance, finding⟩ vector output (.float pattern),
    ?_, ?_⟩
  · rw [check_eq, judgeOutput_float converted measures judged]
    rfl
  · rw [Judgement.failures_tally_eq_nil_iff, accepted]

/-- A result that is not converted is not compared with a pattern. -/
theorem check_float_of_error {pattern : ℕ} (float : trial.expected = .float pattern) {fault : Fault}
    (refused : trial.result.toFormat table.context.format = .error fault) :
    trial.check table policy = .error fault := by
  rw [check_eq, float, judgeOutput_float_of_error refused]
  rfl

/-- A result is compared with an integer whatever the policy. -/
theorem check_int {value : ℤ} (int : trial.expected = .int value) :
    trial.check table policy = (judgeInteger table.routine value trial.result).map fun finding =>
      Judgement.tally ⟨trial.result.toInteger?.map .int, none, finding⟩ trial.vector trial.output
        (.int value) := by
  rw [check_eq, int, judgeOutput_int]
  cases judgeInteger table.routine value trial.result <;> rfl

/-- A finding on an integer is that it matches, or why it does not. -/
theorem finding_eq_none_iff {routine : Routine} {value : ℤ} {result : Value}
    {finding : Option Finding} (judged : judgeInteger routine value result = .ok finding) :
    finding = none ↔ ∃ actual, result.toInteger? = some actual ∧
      routine.integerMatches value actual = true := by
  unfold judgeInteger at judged
  cases integer : result.toInteger? with
  | none =>
    rw [integer] at judged
    dsimp only at judged
    split at judged
    · rw [← Except.ok.inj judged]
      exact iff_of_false nofun fun ⟨_, same, _⟩ => absurd same nofun
    · exact absurd judged nofun
  | some actual =>
    rw [integer] at judged
    dsimp only at judged
    split at judged
    · next same =>
      rw [← Except.ok.inj judged]
      exact iff_of_true rfl ⟨actual, rfl, same⟩
    · next other =>
      split at judged
      · rw [← Except.ok.inj judged]
        refine iff_of_false nofun ?_
        rintro ⟨_, ⟨⟩, same⟩
        exact other same
      · exact absurd judged nofun

/-- A comparison has no failure just if the result agrees. -/
theorem failures_eq_nil_iff (stored : table.IsSound) (sound : trial.IsSound table) {found : Tally}
    (checked : trial.check table policy = .ok found) :
    found.failures = [] ↔ trial.Agrees table policy := by
  unfold Agrees
  cases expected : trial.expected with
  | float pattern =>
    dsimp only
    cases converted : trial.result.toFormat table.context.format with
    | error fault =>
      rw [check_float_of_error expected converted] at checked
      exact absurd checked nofun
    | ok actual =>
      obtain ⟨other, same, accepted⟩ := check_float policy stored sound expected converted
      obtain rfl := Except.ok.inj (same.symm.trans checked)
      rw [accepted]
      constructor
      · intro accepts
        exact ⟨actual, rfl, accepts⟩
      · rintro ⟨_, ⟨⟩, accepts⟩
        exact accepts
  | int value =>
    rw [check_int expected] at checked
    obtain ⟨finding, judged, rfl⟩ := map_eq_ok_iff.mp checked
    rw [Judgement.failures_tally_eq_nil_iff]
    exact finding_eq_none_iff judged

end Trial

/-- What a run compares is sound, if the table and the results are. -/
theorem Table.isSound_of_mem_trials (stored : table.IsSound) {results : List (Except Fault Value)}
    (sound : ∀ value, .ok value ∈ results → value.IsSound) {trial : Trial}
    (member : trial ∈ table.trials policy results) : trial.IsSound table := by
  obtain ⟨vector, result, pair, position, wanted, output, -, expected, found, rfl⟩ :=
    mem_trials_iff.mp member
  obtain ⟨inside, inside'⟩ := List.of_mem_zip pair
  constructor
  · rintro pattern rfl
    exact stored.fits vector inside pattern (List.mem_of_getElem? expected)
  · refine Value.isSound_of_mem_outputsOf (fun value same => ?_) (List.mem_of_getElem? found)
    exact sound value (same ▸ inside')

/-- The outputs that fail are those that are compared and do not agree. -/
theorem Table.fails_iff (stored : table.IsSound) {mode : Mode}
    {results : List (Except Fault Value)} (sound : ∀ value, .ok value ∈ results → value.IsSound)
    (each : ∀ trial ∈ table.trials policy results, ∃ found, trial.check table policy = .ok found)
    {index output : ℕ} :
    (table.account policy mode results).Fails index output ↔
      ∃ trial ∈ table.trials policy results, ¬ trial.Agrees table policy ∧
        trial.vector.index = index ∧ trial.output = output := by
  rw [account_fails_iff each]
  refine exists_congr fun trial => and_congr_right fun member => and_congr_left' ?_
  obtain ⟨found, checked⟩ := each trial member
  rw [Trial.found_eq checked, Ne,
    Trial.failures_eq_nil_iff stored (isSound_of_mem_trials stored sound member) checked]

end LibmAudit
