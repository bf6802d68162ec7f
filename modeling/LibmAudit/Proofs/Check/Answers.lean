/-
**The reference library passes its own tables.**

A row is made of what the reference library gives for some operands, and of these operands. A table
of such rows is decoded to the same operands and outputs, and a run of the reference library on it
finds nothing, whatever is accepted.

* `LibraryKind.fitOperands_of_kinds`, `Response.unpack_toValue`: operands and outputs of the kinds
  of a routine.
* `Answer`: operands of a routine with what the reference library gives for them, and the row.
* `Answer.decodeRow_row`, `callOn_vector`: a row is decoded, and its call gives the answer again.
* `Trial.check_self`: an output agrees with itself under every policy.
* `Table.run_answers`: the law for tables of any number of answers.
-/

import LibmAudit.Check.Subject
import LibmAudit.Proofs.Check.Completion
import LibmAudit.Proofs.Check.Judgement
import LibmAudit.Proofs.Image
import LibmAudit.Proofs.Reference.Outputs

namespace LibmAudit

attribute [local instance (high)] instPowNat

/-! ## Entries -/

namespace SlotValue

/-- The entry of a row for an operand or an output: its bit pattern or its integer. -/
def entry : SlotValue → Value
  | .float pattern => .bits pattern
  | .int value => .int value

/-- An operand as a function under test reads it from its argument. -/
def ofArgument (format : Format) : SlotValue → SlotValue
  | .float image => .float (format.ofImage image)
  | .int value => .int value

variable {format : Format} {value : SlotValue}

/-- An argument is read as the operand that it was made of. -/
theorem ofArgument_argument (fits : value.Fits format) :
    (value.argument format).ofArgument format = value := by
  cases value with
  | float pattern => exact congrArg float (format.ofImage_imageOf fits)
  | int value => rfl

theorem decodeSlot_entry (fits : value.Fits format) :
    Table.decodeSlot format value.slot value.entry = .ok value := by
  cases value with
  | float pattern =>
    change (format.decode (.bits pattern)).map float = _
    unfold Format.decode
    dsimp only
    rw [if_neg (not_le.mpr fits)]
    rfl
  | int value => rfl

theorem decodeInput_entry (fits : value.Fits format) :
    Table.decodeInput format value.slot value.entry = .ok value := by
  rw [← decodeSlot_entry fits]
  cases value <;> rfl

theorem decodeExpected_entry (fits : value.Fits format) :
    Table.decodeExpected format value.slot value.entry = .ok (some value) := by
  have decoded : Table.decodeExpected format value.slot value.entry =
      (Table.decodeSlot format value.slot value.entry).map some := by
    cases value <;> rfl
  rw [decoded, decodeSlot_entry fits]
  rfl

theorem toSlot_slot : value.toSlot format value.slot = .ok value := by
  cases value <;> rfl

end SlotValue

/-- Values in slots are read back from their arguments. -/
theorem Fills.map_ofArgument {format : Format} {slots : List Slot} {values : List SlotValue}
    (fills : Fills format slots values) :
    (values.map (SlotValue.argument format)).map (SlotValue.ofArgument format) = values := by
  rw [List.map_map]
  refine (List.map_congr_left fun value member => ?_).trans (List.map_id _)
  exact SlotValue.ofArgument_argument (fills.fits value member)

/-- Entries are decoded one after the other. -/
theorem Table.decodeAll_entries {α : Type} {decode : Slot → Value → Except Fault α}
    {function : SlotValue → α} {values : List SlotValue}
    (each : ∀ value ∈ values, decode value.slot value.entry = .ok (function value)) :
    decodeAll decode (values.map SlotValue.slot) (values.map SlotValue.entry) =
      .ok (values.map function) := by
  induction values with
  | nil => rfl
  | cons value rest ih =>
    rw [List.forall_mem_cons] at each
    rw [List.map_cons, List.map_cons, decodeAll, each.1, ih each.2]
    rfl

/-- Operands in slots of their kinds stay as they are. -/
theorem fitSlots_slot (format : Format) (values : List SlotValue) :
    fitSlots format (values.map SlotValue.slot) values = .ok values := by
  induction values with
  | nil => rfl
  | cons value rest ih =>
    rw [List.map_cons, fitSlots, SlotValue.toSlot_slot, ih]
    rfl

namespace LibraryKind

variable {routine : Routine} {operands : List SlotValue}

/-- Operands of the kinds of a routine are taken as they are. -/
theorem fitOperands_of_kinds (kind : LibraryKind) (format : Format)
    (kinds : operands.map SlotValue.slot = routine.shape.inputs) :
    kind.fitOperands routine format operands = .ok operands := by
  unfold fitOperands
  rw [kind.checkCount_of_kinds kinds]
  dsimp only [bind, Except.bind]
  split
  · next scale =>
    rw [scale] at kinds
    exact absurd kinds (by simp [Shape.inputs, SlotValue.slot])
  · rfl
  · rw [← kinds, fitSlots_slot]

end LibraryKind

/-- The result of a call with as many outputs as the routine has stands for these outputs. -/
theorem Response.unpack_toValue (response : Response) (format : Format) {routine : Routine}
    (length : response.outputs.length = routine.shape.outputs.length) :
    unpack routine (response.toValue format) =
      .ok (response.outputs.map (SlotValue.toValue format)) := by
  unfold unpack Response.toValue
  rw [← length]
  match response.outputs with
  | [] => rfl
  | [output] => rfl
  | first :: second :: rest =>
    dsimp only
    rw [if_neg (by simp), if_pos (List.length_map ..)]

/-! ## Answers -/

/-- Operands of a routine, and what the reference library gives for them. -/
structure Answer (routine : Routine) (format : Format) (mode : Mode) where
  operands : List SlotValue
  response : Response
  fills : Fills format routine.shape.inputs operands
  answered : LibraryKind.reference.call routine format mode operands = .ok response

namespace Answer

variable {routine : Routine} {format : Format} {mode : Mode}
  (answer : Answer routine format mode)

/-- The row of an answer: its outputs, then its operands. -/
def row : Value :=
  .tuple (answer.response.outputs.map SlotValue.entry ++ answer.operands.map SlotValue.entry)

/-- The vector of an answer at a position. -/
def vector (index : ℕ) : Vector := ⟨index, answer.operands, answer.response.outputs.map some⟩

/-- The outputs are those of the routine. -/
theorem outputs_fill : Fills format routine.shape.outputs answer.response.outputs := by
  obtain ⟨-, -, called⟩ := bind_eq_ok_iff.mp answer.answered
  exact Reference.call_fills answer.fills _ called

theorem length_outputs :
    answer.response.outputs.length = routine.shape.outputs.length := by
  rw [← answer.outputs_fill.kinds, List.length_map]

/-- The row is decoded to the operands and the outputs. -/
theorem decodeRow_row (index : ℕ) :
    Table.decodeRow routine format index answer.row = .ok (answer.vector index) := by
  have outputs := answer.outputs_fill
  have length := answer.length_outputs
  have width : (answer.response.outputs.map SlotValue.entry ++
      answer.operands.map SlotValue.entry).length = routine.shape.width := by
    rw [List.length_append, List.length_map, List.length_map, length, Shape.width,
      ← answer.fills.kinds, List.length_map, Nat.add_comm]
  have taken : (answer.response.outputs.map SlotValue.entry).length =
      routine.shape.outputs.length := by
    rw [List.length_map, length]
  unfold Table.decodeRow row
  dsimp only
  rw [if_neg (not_not.mpr width)]
  unfold Table.decodeEntries
  dsimp only
  rw [List.take_left' taken, List.drop_left' taken, ← outputs.kinds, ← answer.fills.kinds,
    Table.decodeAll_entries fun value member =>
      SlotValue.decodeExpected_entry (outputs.fits value member),
    Table.decodeAll_entries fun value member =>
      SlotValue.decodeInput_entry (answer.fills.fits value member), List.map_id']
  rfl

/-- The call of the vector gives the answer again. -/
theorem callOn_vector (index : ℕ) :
    LibraryKind.reference.callOn routine format mode (answer.vector index) =
      .ok answer.response := by
  unfold LibraryKind.callOn vector
  dsimp only
  rw [LibraryKind.fitOperands_of_kinds .reference format answer.fills.kinds]
  exact answer.answered

end Answer

/-! ## Comparisons -/

theorem Carrier.convert_self (carrier : Carrier) (pattern : ℕ) :
    carrier.convert carrier pattern = pattern := by
  cases carrier <;> rfl

/-- A float output is converted to its pattern. -/
theorem SlotValue.toFormat_toValue {format : Format} {carrier : Carrier}
    (stored : format.carrier? = some carrier) (pattern : ℕ) :
    ((float pattern).toValue format).toFormat format = .ok pattern := by
  have number : (Value.scalar carrier pattern).IsNumber := trivial
  unfold toValue Value.toFormat
  rw [stored]
  dsimp only
  rw [Value.toCarrier_of_isNumber number]
  exact congrArg Except.ok (carrier.convert_self pattern)

/-- Whatever is measured of a pattern and itself is no distance. -/
theorem measured_self (format : Format) (policy : Policy) (pattern : ℕ) :
    ∃ distance, measured format policy pattern pattern = .ok distance ∧
      (distance = none ∨ distance = some (.steps 0)) := by
  unfold measured
  split
  · next deferred =>
    have finite : format.isFinite pattern = true :=
      (format.compareSpecial_eq_deferred_iff.mp deferred).1.elim (·.1.1) (·.1.1)
    have near : Format.ordinalDistance (format.toOrdinal pattern) (format.toOrdinal pattern) =
        .steps 0 := by
      rw [Format.ordinalDistance, if_neg fun apart => apart.2.2 rfl, Int.sub_self]
      rfl
    rw [format.distance_of_finite finite finite, near]
    exact ⟨_, rfl, Or.inr rfl⟩
  · exact ⟨_, rfl, Or.inl rfl⟩

theorem Routine.integerMatches_self (routine : Routine) (value : ℤ) :
    routine.integerMatches value value = true := by
  unfold integerMatches
  split
  · simp [quotientsMatch]
  · exact beq_self_eq_true value

variable {table : Table} {policy : Policy}

/-- An output agrees with itself under every policy. -/
theorem checkOutput_self {carrier : Carrier}
    (stored : table.context.format.carrier? = some carrier) (policy : Policy) (vector : Vector)
    (output : ℕ) {value : SlotValue} (fits : value.Fits table.context.format) :
    checkOutput table policy vector output value (value.toValue table.context.format) {} =
      .ok {} := by
  cases value with
  | float pattern =>
    obtain ⟨distance, measures, nothing⟩ := measured_self table.context.format policy pattern
    have judged := (table.context.format.judgeFloat_eq_none_iff fits fits).mpr
      (Format.Passes.refl _ policy fits)
    rw [checkOutput_eq,
      judgeOutput_float (SlotValue.toFormat_toValue stored pattern) measures judged]
    rcases nothing with rfl | rfl <;> rfl
  | int value =>
    have judged : judgeInteger table.routine value (.int value) = .ok none :=
      if_pos (table.routine.integerMatches_self value)
    rw [checkOutput_eq, judgeOutput_int, SlotValue.toValue, judged]
    rfl

/-- Trials that find nothing find nothing together. -/
theorem collect_of_nothing {trials : List Trial}
    (nothing : ∀ trial ∈ trials, trial.found table policy = {}) :
    collect table policy trials {} = {} := by
  induction trials with
  | nil => rfl
  | cons trial rest ih =>
    rw [List.forall_mem_cons] at nothing
    rw [collect, List.foldl_cons, nothing.1]
    exact ih nothing.2

namespace Table

variable {routine : Routine} {context : Context} {mode : Mode}

/-! ## Tables -/

/-- The vectors of rows from a position on. -/
def vectorsFrom (index : ℕ) (answers : List (Answer routine context.format mode)) : List Vector :=
  (answers.zipIdx index).map fun pair => pair.1.vector pair.2

/-- The table of answers. -/
def ofAnswers (name : String) (answers : List (Answer routine context.format mode)) : Table :=
  ⟨routine, context, name, vectorsFrom 0 answers⟩

/-- The answers as results. -/
def resultsOf (answers : List (Answer routine context.format mode)) : List (Except Fault Value) :=
  answers.map fun answer => .ok (answer.response.toValue context.format)

theorem decodeRows_rows (name : String) (index : ℕ)
    (answers : List (Answer routine context.format mode)) :
    decodeRows routine context.format name index (answers.map Answer.row) =
      .ok (vectorsFrom index answers) := by
  induction answers generalizing index with
  | nil => rfl
  | cons answer rest ih =>
    rw [List.map_cons, decodeRows, answer.decodeRow_row, ih]
    rfl

/-- What all vectors have from their answers. -/
theorem map_vectorsFrom {α : Type} {function : Vector → α}
    {function' : Answer routine context.format mode → α}
    (each : ∀ answer index, function (answer.vector index) = function' answer) (index : ℕ)
    (answers : List (Answer routine context.format mode)) :
    (vectorsFrom index answers).map function = answers.map function' := by
  calc (vectorsFrom index answers).map function
      = (answers.zipIdx index).map (function' ∘ Prod.fst) := by
        rw [vectorsFrom, List.map_map]
        exact List.map_congr_left fun pair _ => each pair.1 pair.2
    _ = answers.map function' := by rw [← List.map_map, List.zipIdx_map_fst]

/-- The vectors and the results of a run belong to the answers. -/
theorem of_mem_zip {α : Type} {function : Answer routine context.format mode → α} {index : ℕ}
    {answers : List (Answer routine context.format mode)} {vector : Vector} {result : α}
    (member : (vector, result) ∈ (vectorsFrom index answers).zip (answers.map function)) :
    ∃ answer ∈ answers, ∃ position, vector = answer.vector position ∧
      result = function answer := by
  have results : answers.map function = (answers.zipIdx index).map (function ∘ Prod.fst) := by
    rw [← List.map_map, List.zipIdx_map_fst]
  rw [vectorsFrom, results, List.zip_map', List.mem_map] at member
  obtain ⟨⟨answer, position⟩, inside, same⟩ := member
  exact ⟨answer, List.fst_mem_of_mem_zipIdx inside, position, (Prod.mk.inj same).1.symm,
    (Prod.mk.inj same).2.symm⟩

variable {carrier : Carrier} (stored : context.format.carrier? = some carrier)
  (answers : List (Answer routine context.format mode)) (name : String)

include stored

/-- The rows of answers are decoded to their table. -/
theorem ofRows_rows (given : Option String) :
    ofRows routine context (answers.map Answer.row) given =
      .ok (ofAnswers (given.getD (defaultName routine context.format)) answers) := by
  unfold ofRows
  dsimp only
  rw [if_neg (by rw [stored]; exact Bool.false_ne_true), decodeRows_rows]
  rfl

/-- The reference library gives the answers again. -/
theorem runOn_answers :
    ∃ flags, (Subject.library .reference routine).runOn (ofAnswers name answers) mode =
      .ok ⟨resultsOf answers, flags⟩ := by
  have found : Reference.lookup context.format = .ok () := by
    rw [Reference.lookup, stored]
    rfl
  have responses : (vectorsFrom 0 answers).map
      (LibraryKind.reference.callOn routine context.format mode) =
        answers.map fun answer => .ok answer.response :=
    map_vectorsFrom (fun answer index => answer.callOn_vector index) 0 answers
  refine ⟨((answers.map fun answer => (.ok answer.response : Except Fault Response)).foldl
    (fun flags response => flags.union (raisedBy response)) .none), ?_⟩
  unfold Subject.runOn ofAnswers LibraryKind.lookup
  dsimp only
  rw [found, responses, List.map_map]
  rfl

/-- Every comparison of a run on answers finds nothing. -/
theorem check_answers {trial : Trial}
    (member : trial ∈ (ofAnswers name answers).trials policy (resultsOf answers)) :
    trial.check (ofAnswers name answers) policy = .ok {} := by
  obtain ⟨vector, result, pair, position, wanted, output, -, expected, found, rfl⟩ :=
    mem_trials_iff.mp member
  obtain ⟨answer, -, index, rfl, rfl⟩ := of_mem_zip pair
  change (outputsOf routine _)[position]? = _ at found
  rw [outputsOf_eq (answer.response.unpack_toValue _ answer.length_outputs), List.getElem?_map,
    Option.map_eq_some_iff] at found
  obtain ⟨value, place, rfl⟩ := found
  change (answer.response.outputs.map some)[position]? = _ at expected
  rw [List.getElem?_map, place] at expected
  obtain rfl := Option.some.inj (Option.some.inj expected)
  exact checkOutput_self stored policy _ position
    (answer.outputs_fill.fits value (List.mem_of_getElem? place))

/-- A run on answers has no failure and measures no distance. -/
theorem run_ofAnswers (wide : policy.checked.length = routine.shape.outputs.length) :
    (ofAnswers name answers).run policy mode (resultsOf answers) =
      .ok ⟨routine, context, answers.length, [], 0, mode, policy⟩ := by
  have shaped : (ofAnswers name answers).Shaped (vectorsFrom 0 answers) (resultsOf answers) := by
    rintro ⟨vector, result⟩ pair
    obtain ⟨answer, -, index, rfl, rfl⟩ := of_mem_zip pair
    exact ⟨_, answer.response.unpack_toValue _ answer.length_outputs⟩
  have each (trial : Trial)
      (member : trial ∈ (ofAnswers name answers).trials policy (resultsOf answers)) :=
    check_answers stored answers name member
  refine run_eq_ok_iff.mpr ⟨wide, shaped, fun trial member => ⟨{}, each trial member⟩, ?_⟩
  have nothing := collect_of_nothing fun trial member => Trial.found_eq (each trial member)
  have ran : min (vectorsFrom 0 answers).length (resultsOf answers).length = answers.length := by
    rw [vectorsFrom, resultsOf, List.length_map, List.length_map, List.length_zipIdx, min_self]
  unfold account
  rw [nothing]
  exact congrArg (Verdict.mk routine context · [] 0 mode policy) ran.symm

/-- The pipeline accepts the answers of the reference library. The rows of any answers are decoded
to a table of their operands and outputs, which are read back from their images in memory. In the
mode of the answers the reference library gives the outputs again, and under every policy for as
many outputs the verdict is that nothing fails and no distance was measured. -/
theorem run_answers (given : Option String) :
    ∃ table performance,
      ofRows routine context (answers.map Answer.row) given = .ok table ∧
      table.vectors.map Vector.inputs = answers.map Answer.operands ∧
      table.vectors.map Vector.expected =
        answers.map (fun answer => answer.response.outputs.map some) ∧
      (∀ vector ∈ table.vectors, (vector.arguments context.format).map
        (SlotValue.ofArgument context.format) = vector.inputs) ∧
      (∀ answer ∈ answers, (answer.response.outputs.map (SlotValue.argument context.format)).map
        (SlotValue.ofArgument context.format) = answer.response.outputs) ∧
      (Subject.library .reference routine).runOn table mode = .ok performance ∧
      ∀ policy : Policy, policy.checked.length = routine.shape.outputs.length →
        ∃ verdict, table.run policy mode performance.results = .ok verdict ∧
          verdict.passed = true ∧ verdict.failures = [] ∧ verdict.maxUlps = 0 ∧
            verdict.ran = answers.length := by
  obtain ⟨flags, performed⟩ :=
    runOn_answers stored answers (given.getD (defaultName routine context.format))
  refine ⟨_, _, ofRows_rows stored answers given, map_vectorsFrom (fun _ _ => rfl) 0 answers,
    map_vectorsFrom (fun _ _ => rfl) 0 answers, fun vector member => ?_,
    fun answer _ => answer.outputs_fill.map_ofArgument, performed, fun policy wide =>
      ⟨_, run_ofAnswers stored answers _ wide, rfl, rfl, rfl, rfl⟩⟩
  obtain ⟨⟨answer, index⟩, -, rfl⟩ := List.mem_map.mp member
  exact answer.fills.map_ofArgument

omit stored in
/-- The least magnitude taken apart, as a table of one row. -/
theorem run_answers_frexp :
    Format.half.carrier? = some .half ∧
      (Policy.default .frexp).checked.length = Routine.frexp.shape.outputs.length ∧
      ∃ table performance,
        ofRows .frexp ⟨.half, .nearestEven, []⟩ [.tuple [.bits 0x3800, .int (-23), .bits 1]] none =
          .ok table ∧
        (Subject.library .reference .frexp).runOn table .down = .ok performance ∧
        ∃ verdict, table.run (.default .frexp) .down performance.results = .ok verdict ∧
          verdict.passed = true ∧ verdict.ran = 1 := by
  have stored : Format.half.carrier? = some .half := by decide
  have wide : (Policy.default .frexp).checked.length = Routine.frexp.shape.outputs.length := rfl
  have fills : Fills .half [.float] [.float 1] := fills_float (by decide)
  have answered : LibraryKind.reference.call .frexp .half .down [.float 1] =
      .ok ⟨[.float 0x3800, .int (-23)], .none⟩ := rfl
  obtain ⟨table, performance, rows, -, -, -, -, performed, verdicts⟩ :=
    @run_answers .frexp ⟨.half, .nearestEven, []⟩ .down _ stored [⟨_, _, fills, answered⟩] none
  obtain ⟨verdict, ran, passed, -, -, count⟩ := verdicts (.default .frexp) wide
  exact ⟨stored, wide, table, performance, rows, performed, verdict, ran, passed, count⟩

end Table

end LibmAudit
