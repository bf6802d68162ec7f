/-
**Verdicts on the built-in tables.**

The calls of a library on the vectors of a built-in table give outputs of the kinds of the routine,
or stop with the fault of a value. So each comparison of such a run can be made, or its finding
cannot be written. What a verdict lists can be written.

* `LibraryKind.callOn_endsTold`, `unpack_callOn`: the calls.
* `verdictOn_endsTold`: a verdict, or the fault of a value.
* `exists_report`: every verdict has its report.
-/

import LibmAudit.Check.Report
import LibmAudit.Proofs.Check.Answers
import LibmAudit.Proofs.Native.Outputs
import LibmAudit.Proofs.Suite.Tables
import LibmAudit.Suite.Session

namespace LibmAudit

attribute [local instance (high)] instPowNat

/-! ## Calls -/

theorem Vector.IsOrdinary.fills {routine : Routine} {format : Format} {vector : Vector}
    (ordinary : vector.IsOrdinary routine format) :
    Fills format routine.shape.inputs vector.inputs := by
  refine ⟨ordinary.kinds, fun value member => ?_⟩
  have fits := ordinary.inputs value member
  cases value with
  | float => exact fits
  | int => trivial

namespace LibraryKind

variable {kind : LibraryKind} {routine : Routine} {carrier : Carrier} {mode : Mode}
  {vector : Vector} (ordinary : vector.IsOrdinary routine carrier.format)

include ordinary

/-- The operands of an ordinary vector are taken as they are. -/
theorem callOn_eq : kind.callOn routine carrier.format mode vector =
    kind.call routine carrier.format mode vector.inputs := by
  unfold callOn
  rw [kind.fitOperands_of_kinds _ ordinary.kinds]
  rfl

theorem callOn_endsTold : EndsTold (kind.callOn routine carrier.format mode vector) := by
  rw [callOn_eq ordinary]
  unfold call
  rw [kind.checkCount_of_kinds ordinary.kinds]
  cases kind with
  | native _ =>
    show EndsTold (Native.call routine carrier.format vector.inputs)
    by_cases isFma : routine = .fma
    · exact ordinary.fused isFma
    · have completes : ∃ response, Native.call routine carrier.format vector.inputs = .ok response :=
        Native.call_completes isFma ordinary.kinds
      obtain ⟨response, given⟩ := completes
      rw [given]
      exact .ok _
  | reference =>
    refine Reference.call_endsTold carrier.ranged carrier.precise ordinary.fills
      fun power member => ?_
    have small : power.natAbs < 2 ^ (32 : ℕ) := ordinary.inputs _ member
    omega

/-- The outputs of a call are of the kinds of the routine. -/
theorem slots_callOn {response : Response}
    (called : kind.callOn routine carrier.format mode vector = .ok response) :
    response.slots = routine.shape.outputs := by
  rw [callOn_eq ordinary] at called
  obtain ⟨-, -, called⟩ := bind_eq_ok_iff.mp called
  cases kind with
  | native _ => exact Native.slots_call ordinary.kinds called
  | reference => exact (Reference.call_fills ordinary.fills _ called).kinds

/-- The result of a call stands for outputs of the kinds of the routine. -/
theorem unpack_callOn {response : Response}
    (called : kind.callOn routine carrier.format mode vector = .ok response) :
    unpack routine (response.toValue carrier.format) =
      .ok (response.outputs.map (SlotValue.toValue carrier.format)) := by
  have slots := slots_callOn ordinary called
  refine response.unpack_toValue _ ?_
  rw [← slots, Response.slots, List.length_map]

end LibraryKind

/-! ## Comparisons -/

section Comparisons

variable {table : Table} {policy : Policy} {format : Format}

theorem Format.distance_endsTold (expected actual : ℤ) :
    EndsTold (format.distance expected actual) := by
  unfold Format.distance
  split
  · exact .ok _
  · exact .error (Or.inr rfl)

theorem measured_endsTold (expected actual : ℕ) :
    EndsTold (measured format policy expected actual) := by
  unfold measured
  split
  · exact (Format.distance_endsTold _ _).map _
  · exact .ok _

theorem judgeFloat_endsTold (expected actual : ℕ) :
    EndsTold (judgeFloat format policy expected actual) := by
  unfold judgeFloat
  split
  · exact .ok _
  · exact .ok _
  · refine .bind (Format.distance_endsTold _ _) fun distance _ => ?_
    unfold judgeDistance
    split
    · exact .ok _
    · split_ifs
      · exact .ok _
      · exact .ok _
      · exact .error (Or.inr rfl)

theorem judgeInteger_endsTold (routine : Routine) (expected : ℤ) (result : Value) :
    EndsTold (judgeInteger routine expected result) := by
  unfold judgeInteger
  split
  · split
    · exact .ok _
    · exact .error (Or.inr rfl)
  · split_ifs
    · exact .ok _
    · exact .ok _
    · exact .error (Or.inr rfl)

/-- An output is compared with what is expected of its kind. -/
theorem judgeOutput_endsTold {carrier : Carrier} (stored : format.carrier? = some carrier)
    (routine : Routine) {expected value : SlotValue} (kind : value.slot = expected.slot) :
    EndsTold (judgeOutput routine format policy expected (value.toValue format)) := by
  cases expected with
  | float pattern =>
    obtain ⟨actual, rfl⟩ := SlotValue.eq_float_of_slot kind
    unfold judgeOutput
    dsimp only
    rw [SlotValue.toFormat_toValue stored]
    refine .bind (.ok _) fun actual _ => .bind (measured_endsTold _ _) fun distance _ => ?_
    exact .bind (judgeFloat_endsTold _ _) fun finding _ => .ok _
  | int value =>
    exact .bind (judgeInteger_endsTold _ _ _) fun finding _ => .ok _

theorem gather_endsTold {trials : List Trial}
    (each : ∀ trial ∈ trials, EndsTold (trial.check table policy)) (tally : Tally) :
    EndsTold (gather table policy trials tally) := by
  induction trials generalizing tally with
  | nil => exact .ok _
  | cons trial rest ih =>
    rw [List.forall_mem_cons] at each
    rw [gather_cons]
    exact .bind (each.1.map _) fun tally _ => ih each.2 tally

/-- The results for several vectors are checked one after the other. -/
theorem checkVectors_endsTold {result : Vector → Except Fault Value} {vectors : List Vector}
    (shaped : ∀ vector ∈ vectors, EndsTold (result vector >>= unpack table.routine))
    (each : ∀ vector ∈ vectors, ∀ outputs, (result vector >>= unpack table.routine) = .ok outputs →
      ∀ trial ∈ trialsFrom vector 0 policy.checked vector.expected outputs,
        EndsTold (trial.check table policy)) (tally : Tally) :
    EndsTold (checkVectors table policy vectors (vectors.map result) tally) := by
  induction vectors generalizing tally with
  | nil => exact .ok _
  | cons vector rest ih =>
    rw [List.forall_mem_cons] at shaped each
    rw [List.map_cons, checkVectors_cons]
    refine .bind shaped.1 fun outputs given => ?_
    exact .bind (gather_endsTold (each.1 outputs given) tally) fun tally _ =>
      ih shaped.2 each.2 tally

end Comparisons

/-! ## Verdicts -/

/-- What is expected of an output in an ordinary vector. -/
theorem Vector.IsOrdinary.of_expected {routine : Routine} {format : Format} {vector : Vector}
    (ordinary : vector.IsOrdinary routine format) {position : ℕ} {wanted : SlotValue} {slot : Slot}
    (expected : vector.expected[position]? = some (some wanted))
    (output : routine.shape.outputs[position]? = some slot) :
    wanted.slot = slot ∧ wanted.IsOrdinary format := by
  have pair : (vector.expected.zip routine.shape.outputs)[position]? = some (some wanted, slot) :=
    List.getElem?_zip_eq_some.mpr ⟨expected, output⟩
  exact ordinary.expected _ (List.mem_of_getElem? pair) wanted rfl

namespace Suite

variable {context : Context} {routine : Routine} {table : Table} {kind : LibraryKind} {mode : Mode}
  {policy : Policy}

/-- The results of a library on a table. -/
def resultsOf (kind : LibraryKind) (mode : Mode) (table : Table) : List (Except Fault Value) :=
  table.vectors.map fun vector =>
    (kind.callOn table.routine table.context.format mode vector).map
      (Response.toValue table.context.format)

/-- A verdict is that of a run on the results of the library. -/
theorem verdictOn_eq (provided : kind.lookup table.routine table.context.format = .ok ()) :
    verdictOn table kind mode policy = table.run policy mode (resultsOf kind mode table) := by
  unfold verdictOn Subject.runOn resultsOf
  dsimp only
  rw [provided, List.map_map]
  rfl

variable (builtIn : IsBuiltIn context routine table)
  (provided : kind.lookup routine context.format = .ok ())

include builtIn provided

/-- The outputs of a vector of a built-in table, and the trials that are made of them. -/
theorem outputs_of_vector {vector : Vector} (member : vector ∈ table.vectors) {value : Value}
    (called : (kind.callOn table.routine table.context.format mode vector).map
      (Response.toValue table.context.format) = .ok value) :
    ∃ outputs : List SlotValue, outputs.map SlotValue.slot = routine.shape.outputs ∧
      unpack table.routine value = .ok (outputs.map (SlotValue.toValue table.context.format)) := by
  obtain ⟨rfl, rfl, ⟨carrier, stored⟩, ordinary⟩ := builtIn
  have ordinary := ordinary vector member
  rw [stored] at ordinary called ⊢
  obtain ⟨response, responded, rfl⟩ := map_eq_ok_iff.mp called
  exact ⟨response.outputs, LibraryKind.slots_callOn ordinary responded,
    LibraryKind.unpack_callOn ordinary responded⟩

omit provided in
/-- An output of a vector of a built-in table is compared with one of its kind. -/
theorem of_mem_trialsFrom {vector : Vector} (member : vector ∈ table.vectors)
    {outputs : List SlotValue} (slots : outputs.map SlotValue.slot = routine.shape.outputs)
    {trial : Trial}
    (compared : trial ∈ trialsFrom vector 0 policy.checked vector.expected
      (outputs.map (SlotValue.toValue table.context.format))) :
    ∃ value : SlotValue, trial.result = value.toValue table.context.format ∧
      value.slot = trial.expected.slot ∧ trial.vector = vector ∧
        trial.expected.IsOrdinary context.format := by
  obtain ⟨position, wanted, result, -, expected, output, rfl⟩ := mem_trialsFrom_iff.mp compared
  rw [List.getElem?_map, Option.map_eq_some_iff] at output
  obtain ⟨value, here, rfl⟩ := output
  have slot : routine.shape.outputs[position]? = some value.slot := by
    rw [← slots, List.getElem?_map, here]
    rfl
  obtain ⟨same, ordinary⟩ := (builtIn.ordinary vector member).of_expected expected slot
  exact ⟨value, rfl, same.symm, rfl, ordinary⟩

/-- A run on a built-in table gives a verdict or stops with the fault of a value. -/
theorem verdictOn_endsTold (wide : policy.checked.length = routine.shape.outputs.length) :
    EndsTold (verdictOn table kind mode policy) := by
  obtain ⟨carrier, stored⟩ := builtIn.stored
  rw [verdictOn_eq (by rw [builtIn.routine_eq, builtIn.context_eq]; exact provided)]
  unfold Table.run
  dsimp only
  rw [if_neg (by rw [builtIn.routine_eq]; exact not_not.mpr wide)]
  refine .bind (checkVectors_endsTold (fun vector member => ?_)
    (fun vector member outputs given trial compared => ?_) {}) fun tally _ => .ok _
  · have ordinary := builtIn.ordinary vector member
    refine .bind ?_ fun value called => ?_
    · rw [builtIn.routine_eq, builtIn.context_eq, stored]
      rw [stored] at ordinary
      exact (LibraryKind.callOn_endsTold ordinary).map _
    · obtain ⟨outputs, -, unpacked⟩ := outputs_of_vector builtIn provided member called
      rw [unpacked]
      exact .ok _
  · obtain ⟨value, called, unpacked⟩ := bind_eq_ok_iff.mp given
    obtain ⟨slotValues, slots, same⟩ := outputs_of_vector builtIn provided member called
    obtain rfl := Except.ok.inj (unpacked.symm.trans same)
    obtain ⟨value, result, kinds, -⟩ := of_mem_trialsFrom builtIn member slots compared
    have type : table.context.format.carrier? = some carrier := by
      rw [builtIn.context_eq, stored]
      exact Format.carrier?_format carrier
    rw [Trial.check_eq, result]
    exact (judgeOutput_endsTold type _ kinds).map _

/-! ## Reports -/

end Suite

theorem decimalText_of_isWritable {value : ℤ} (short : isWritable value = true) :
    decimalText value = .ok (toString value) := by
  rw [decimalText, if_pos short]

/-- An ordinary operand or output can be written. -/
theorem SlotValue.exists_describe {format : Format} {value : SlotValue}
    (ordinary : value.IsOrdinary format) : ∃ text, value.describe format = .ok text := by
  cases value with
  | float pattern => exact ⟨_, rfl⟩
  | int value =>
    have small : value.natAbs < 2 ^ (32 : ℕ) := ordinary
    have many : 10 ≤ digitLimit := by decide
    have long : 10 ^ 10 ≤ 10 ^ digitLimit := Nat.pow_le_pow_right (by decide) many
    have short : isWritable value = true := by
      rw [isWritable, decide_eq_true_iff]
      omega
    exact ⟨_, decimalText_of_isWritable short⟩

/-- What an integer output is told to be can be written. -/
theorem exists_describeActual_integer {routine : Routine} {expected : ℤ} {result : Value}
    {finding : Finding} (format : Format)
    (judged : judgeInteger routine expected result = .ok (some finding)) :
    ∃ text, describeActual format (result.toInteger?.map .int) = .ok text := by
  unfold judgeInteger at judged
  cases actual : result.toInteger? with
  | none => exact ⟨_, rfl⟩
  | some value =>
    rw [actual] at judged
    dsimp only at judged
    split at judged
    · exact absurd judged nofun
    split at judged
    · next short =>
      rw [Bool.and_eq_true] at short
      have text := decimalText_of_isWritable short.2
      exact ⟨_, text⟩
    · exact absurd judged nofun

/-- The output of a failure can be written. -/
theorem Trial.exists_describeActual {table : Table} {policy : Policy} {trial : Trial}
    {found : Tally} (checked : trial.check table policy = .ok found) {failure : Failure}
    (member : failure ∈ found.failures) (format : Format) :
    ∃ text, describeActual format failure.actual = .ok text := by
  rw [check_eq] at checked
  obtain ⟨judgement, judged, rfl⟩ := map_eq_ok_iff.mp checked
  obtain ⟨finding, given, rfl⟩ := Judgement.mem_record_iff.mp member
  unfold judgeOutput at judged
  split at judged
  · obtain ⟨actual, -, judged⟩ := bind_eq_ok_iff.mp judged
    obtain ⟨distance, -, judged⟩ := bind_eq_ok_iff.mp judged
    obtain ⟨_, -, same⟩ := bind_eq_ok_iff.mp judged
    obtain rfl := Except.ok.inj same
    exact ⟨_, rfl⟩
  · obtain ⟨_, told, same⟩ := bind_eq_ok_iff.mp judged
    obtain rfl := Except.ok.inj same
    obtain rfl : _ = some finding := given
    exact exists_describeActual_integer format told

namespace Suite

variable {context : Context} {routine : Routine} {table : Table} {kind : LibraryKind} {mode : Mode}
  {policy : Policy} (builtIn : IsBuiltIn context routine table)
  (provided : kind.lookup routine context.format = .ok ())

include builtIn provided

/-- A verdict on a built-in table is the account of its comparisons, which can all be made. -/
theorem verdictOn_eq_ok {verdict : Verdict} (ran : verdictOn table kind mode policy = .ok verdict) :
    (∀ trial ∈ table.trials policy (resultsOf kind mode table),
        ∃ found, trial.check table policy = .ok found) ∧
      verdict = table.account policy mode (resultsOf kind mode table) := by
  rw [verdictOn_eq (by rw [builtIn.routine_eq, builtIn.context_eq]; exact provided)] at ran
  obtain ⟨-, -, each, same⟩ := Table.run_eq_ok_iff.mp ran
  exact ⟨each, same⟩

/-- What is compared in a run on a built-in table. -/
theorem of_mem_trials {trial : Trial}
    (compared : trial ∈ table.trials policy (resultsOf kind mode table)) :
    trial.vector ∈ table.vectors ∧ trial.expected.IsOrdinary context.format := by
  obtain ⟨vector, result, pair, position, wanted, output, flag, expected, here, rfl⟩ :=
    Table.mem_trials_iff.mp compared
  obtain ⟨member, -⟩ := List.of_mem_zip pair
  have called : result = (kind.callOn table.routine table.context.format mode vector).map
      (Response.toValue table.context.format) := by
    rw [resultsOf, ← List.map_id table.vectors, List.map_map, List.zip_map', List.mem_map] at pair
    obtain ⟨vector', -, same⟩ := pair
    rw [← (Prod.mk.inj same).1, ← (Prod.mk.inj same).2]
    rfl
  unfold outputsOf at here
  split at here
  · next outputs given =>
    obtain ⟨value, responded, unpacked⟩ := bind_eq_ok_iff.mp given
    obtain ⟨slotValues, slots, same⟩ :=
      outputs_of_vector builtIn provided member (called.symm.trans responded)
    obtain rfl := Except.ok.inj (unpacked.symm.trans same)
    have inside : (⟨vector, position, wanted, output⟩ : Trial) ∈
        trialsFrom vector 0 policy.checked vector.expected
          (slotValues.map (SlotValue.toValue table.context.format)) :=
      mem_trialsFrom_iff.mpr ⟨position, wanted, output, flag, expected, here, by rw [Nat.zero_add]⟩
    obtain ⟨-, -, -, -, ordinary⟩ := of_mem_trialsFrom builtIn member slots inside
    exact ⟨member, ordinary⟩
  · exact absurd here nofun

/-- The failures of a verdict can be written. -/
theorem exists_describe_of_mem {verdict : Verdict}
    (ran : verdictOn table kind mode policy = .ok verdict) {failure : Failure}
    (member : failure ∈ verdict.failures) :
    ∃ text, failure.describe verdict.routine verdict.context.format = .ok text := by
  obtain ⟨each, rfl⟩ := verdictOn_eq_ok builtIn provided ran
  rw [Table.account_failures] at member
  obtain ⟨trial, inside, member⟩ := List.mem_flatMap.mp member
  obtain ⟨found, checked⟩ := each trial inside
  rw [Trial.found_eq checked] at member
  obtain ⟨-, -, inputs, expected⟩ := Trial.of_mem_failures checked member
  obtain ⟨among, ordinary⟩ := of_mem_trials builtIn provided inside
  obtain ⟨operands, writtenOperands⟩ : ∃ operands, failure.inputs.mapM
      (SlotValue.describe table.context.format) = .ok operands := by
    rw [inputs]
    refine exists_mapM fun value member => SlotValue.exists_describe ?_
    rw [builtIn.context_eq]
    exact (builtIn.ordinary _ among).inputs value member
  obtain ⟨wanted, writtenWanted⟩ : ∃ wanted,
      failure.expected.describe table.context.format = .ok wanted := by
    rw [expected]
    refine SlotValue.exists_describe ?_
    rw [builtIn.context_eq]
    exact ordinary
  obtain ⟨actual, writtenActual⟩ :=
    Trial.exists_describeActual checked member table.context.format
  exact ⟨_, bind_eq_ok_iff.mpr ⟨operands, writtenOperands, bind_eq_ok_iff.mpr
    ⟨wanted, writtenWanted, bind_eq_ok_iff.mpr ⟨actual, writtenActual, rfl⟩⟩⟩⟩

/-- Every verdict has its report. -/
theorem exists_report {verdict : Verdict} (ran : verdictOn table kind mode policy = .ok verdict)
    (every : Bool) : ∃ block, verdict.report every = .ok block := by
  obtain ⟨lines, written⟩ := @exists_mapM _ _
    (fun failure => failure.describe verdict.routine verdict.context.format)
    (verdict.shownFailures every) fun failure shown => by
      refine exists_describe_of_mem builtIn provided ran ?_
      unfold Verdict.shownFailures at shown
      split at shown
      · exact shown
      · exact List.mem_of_mem_take shown
  exact ⟨_, bind_eq_ok_iff.mpr ⟨lines, written, rfl⟩⟩

end Suite

end LibmAudit
