/-
**The comparison of one output.**

What a check adds to the account of a run depends on the output alone, and not on what was found
before.

* `Tally.append`: what two parts of a run find together.
* `Judgement`, `judgeOutput`: what the comparison of one output finds.
* `Judgement.record`, `steps`, `tally`: the failure and the distance that it stands for.
* `checkOutput_eq`: a check adds what the comparison finds.
* `judgeOutput_float`, `judgeOutput_int`: the comparison of an output, by its slot.
-/

import LibmAudit.Check.Verdict
import LibmAudit.Proofs.Fallible

namespace LibmAudit

/-! ## Tallies -/

namespace Tally

/-- What two parts of a run find together. -/
def append (first second : Tally) : Tally :=
  ⟨first.failures ++ second.failures, max first.maxUlps second.maxUlps⟩

theorem append_empty (tally : Tally) : tally.append {} = tally := by
  simp [append]

theorem empty_append (tally : Tally) : ({} : Tally).append tally = tally := by
  simp [append]

theorem append_assoc (first second third : Tally) :
    (first.append second).append third = first.append (second.append third) := by
  simp [append, max_assoc]

end Tally

/-! ## One output -/

/-- What the comparison of an output finds: what its result is read as, the distance if it is
measured, and why the result is not accepted. -/
structure Judgement where
  actual : Option SlotValue
  distance : Option Distance
  finding : Option Finding

/-- Compares a result with what is expected of it. -/
def judgeOutput (routine : Routine) (format : Format) (policy : Policy) (expected : SlotValue)
    (result : Value) : Except Fault Judgement :=
  match expected with
  | .float pattern => do
    let actual ← result.toFormat format
    let distance ← measured format policy pattern actual
    let finding ← judgeFloat format policy pattern actual
    return ⟨some (.float actual), distance, finding⟩
  | .int value => do
    let finding ← judgeInteger routine value result
    return ⟨result.toInteger?.map .int, none, finding⟩

namespace Judgement

/-- The distance in steps; zero if it is not measured, and if it is unbounded. -/
def steps (judgement : Judgement) : ℕ :=
  match judgement.distance with
  | some (.steps count) => count
  | _ => 0

theorem steps_cases (judgement : Judgement) :
    judgement.steps = 0 ∨ judgement.distance = some (.steps judgement.steps) := by
  unfold steps
  rcases judgement.distance with _ | ⟨count⟩ | _
  · exact Or.inl rfl
  · exact Or.inr rfl
  · exact Or.inl rfl

/-- The failure that is recorded, if there is one. -/
def record (judgement : Judgement) (vector : Vector) (output : ℕ) (expected : SlotValue) :
    List Failure :=
  judgement.finding.toList.map fun finding =>
    ⟨vector.index, output, vector.inputs, expected, judgement.actual, finding.kind,
      finding.distance, finding.reason⟩

/-- What a comparison adds to an account that is empty. -/
def tally (judgement : Judgement) (vector : Vector) (output : ℕ) (expected : SlotValue) : Tally :=
  ⟨judgement.record vector output expected, judgement.steps⟩

/-- Observing the distance and adding the finding is adding the tally. -/
theorem append_tally (tally : Tally) (judgement : Judgement) (vector : Vector) (output : ℕ)
    (expected : SlotValue) :
    (tally.observe judgement.distance).add vector output expected judgement.actual
      judgement.finding = tally.append (judgement.tally vector output expected) := by
  obtain ⟨actual, distance, finding⟩ := judgement
  rcases distance with _ | ⟨count⟩ | _ <;> cases finding <;>
    simp [Judgement.tally, record, steps, Tally.observe, Tally.add, Tally.append]

theorem mem_record_iff {judgement : Judgement} {vector : Vector} {output : ℕ}
    {expected : SlotValue} {failure : Failure} :
    failure ∈ judgement.record vector output expected ↔
      ∃ finding, judgement.finding = some finding ∧ failure =
        ⟨vector.index, output, vector.inputs, expected, judgement.actual, finding.kind,
          finding.distance, finding.reason⟩ := by
  simp only [record, List.mem_map, Option.mem_toList, eq_comm (a := failure)]

theorem failures_tally_eq_nil_iff {judgement : Judgement} {vector : Vector} {output : ℕ}
    {expected : SlotValue} :
    (judgement.tally vector output expected).failures = [] ↔ judgement.finding = none := by
  simp [tally, record]

end Judgement

/-- A check adds what the comparison of the output finds. -/
theorem checkOutput_eq (table : Table) (policy : Policy) (vector : Vector) (output : ℕ)
    (expected : SlotValue) (result : Value) (tally : Tally) :
    checkOutput table policy vector output expected result tally =
      (judgeOutput table.routine table.context.format policy expected result).map
        fun judgement => tally.append (judgement.tally vector output expected) := by
  simp only [← Judgement.append_tally]
  unfold checkOutput judgeOutput
  cases expected with
  | float pattern =>
    dsimp only
    cases result.toFormat table.context.format with
    | error fault => rfl
    | ok actual =>
      dsimp only [bind, Except.bind]
      cases measured table.context.format policy pattern actual with
      | error fault => rfl
      | ok distance =>
        dsimp only
        cases judgeFloat table.context.format policy pattern actual with
        | error fault => rfl
        | ok finding => rfl
  | int value =>
    dsimp only
    cases judgeInteger table.routine value result with
    | error fault => rfl
    | ok finding => rfl

variable {routine : Routine} {format : Format} {policy : Policy} {result : Value}

/-- A float output is compared when its result is converted. -/
theorem judgeOutput_float {expected actual : ℕ} {distance : Option Distance}
    {finding : Option Finding} (converted : result.toFormat format = .ok actual)
    (measures : measured format policy expected actual = .ok distance)
    (judged : judgeFloat format policy expected actual = .ok finding) :
    judgeOutput routine format policy (.float expected) result =
      .ok ⟨some (.float actual), distance, finding⟩ := by
  unfold judgeOutput
  dsimp only
  rw [converted]
  dsimp only [bind, Except.bind]
  rw [measures]
  dsimp only
  rw [judged]
  rfl

theorem judgeOutput_float_of_error {expected : ℕ} {fault : Fault}
    (refused : result.toFormat format = .error fault) :
    judgeOutput routine format policy (.float expected) result = .error fault := by
  unfold judgeOutput
  dsimp only
  rw [refused]
  rfl

/-- An integer output is compared in the same way under every policy. -/
theorem judgeOutput_int (value : ℤ) :
    judgeOutput routine format policy (.int value) result =
      (judgeInteger routine value result).map
        fun finding => ⟨result.toInteger?.map .int, none, finding⟩ := by
  unfold judgeOutput
  dsimp only
  cases judgeInteger routine value result <;> rfl

end LibmAudit
