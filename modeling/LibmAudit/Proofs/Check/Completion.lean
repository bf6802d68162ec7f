/-
**Which results end a run.**

Results that are numbers are compared, whatever they are, except that some integers have too many
digits to be converted or shown.

* `Completes`: a step goes through unless something is oversized.
* `Value.IsNumber`, `Value.IsResultOf`: numbers, and results of the shape of a routine.
* `Carrier.Refuses`, `Trial.IsOversized`: integers that cannot be converted, and comparisons that
  cannot be made.
* `Value.toFormat_completes`, `judgeInteger_completes`, `Trial.check_completes`: one comparison.
* `gather_completes`: all comparisons of a run.
* `Table.run_numbers`: a run over numbers gives a verdict with a failure for each output that does
  not agree, unless a comparison is oversized.
-/

import LibmAudit.Proofs.Check.Trial

namespace LibmAudit

attribute [local instance (high)] instPowNat

/-! ## Steps -/

/-- A step goes through, or it ends at an integer that is too large, just if something is
oversized. -/
inductive Completes {α : Type} (oversized : Prop) : Except Fault α → Prop
  | ok {value : α} (small : ¬ oversized) : Completes oversized (.ok value)
  | error {fault : Fault} (reason : fault = .integerTooLarge ∨ fault = .integerTooLongToWrite)
      (large : oversized) : Completes oversized (.error fault)

namespace Completes

variable {α β : Type} {oversized oversized' : Prop} {given : Except Fault α}

theorem map (completes : Completes oversized given) (function : α → β) :
    Completes oversized (given.map function) := by
  cases completes with
  | ok small => exact .ok small
  | error reason large => exact .error reason large

/-- Two steps go through if each of them does. -/
theorem bind {next : α → Except Fault β} (first : Completes oversized given)
    (second : ∀ value, Completes oversized' (next value)) :
    Completes (oversized ∨ oversized') (given >>= next) := by
  cases first with
  | error reason large => exact .error reason (Or.inl large)
  | @ok value small =>
    -- The first step went through, so that only the second one may be oversized.
    have only : oversized ∨ oversized' ↔ oversized' := or_iff_right small
    rw [only]
    exact second value

end Completes

/-! ## Numbers -/

namespace Value

/-- A truth value, an integer of any size, a plain number or a number of a machine type. -/
def IsNumber : Value → Prop
  | bool _ | int _ | number _ | scalar _ _ | fixed _ _ => True
  | _ => False

/-- A result of the shape of a routine: a number, or a tuple of numbers for several outputs. -/
def IsResultOf (routine : Routine) (value : Value) : Prop :=
  if routine.shape.outputs.length = 1 then value.IsNumber
  else ∃ items, value = .tuple items ∧ items.length = routine.shape.outputs.length ∧
    ∀ item ∈ items, item.IsNumber

/-- Such a result stands for numbers. -/
theorem IsResultOf.unpack {routine : Routine} {value : Value} (result : value.IsResultOf routine) :
    ∃ outputs, LibmAudit.unpack routine value = .ok outputs ∧
      ∀ output ∈ outputs, output.IsNumber := by
  unfold IsResultOf at result
  unfold LibmAudit.unpack
  dsimp only
  split at result
  · next single =>
    rw [if_pos single]
    exact ⟨[value], rfl, fun _ member => List.mem_singleton.mp member ▸ result⟩
  · next several =>
    obtain ⟨items, rfl, length, numbers⟩ := result
    rw [if_neg several]
    exact ⟨items, if_pos length, numbers⟩

end Value

/-! ## Floats -/

/-- The least magnitude that the 64-bit format rounds to an infinity. -/
def doubleLimit : ℕ := (2 ^ (54 : ℕ) - 1) * 2 ^ (970 : ℕ)

/-- An integer cannot be converted to a machine type: the extended type takes what can be written,
the other ones what the 64-bit format does not round to an infinity. -/
def Carrier.Refuses (carrier : Carrier) (value : ℤ) : Prop :=
  if carrier = .extended then 10 ^ digitLimit ≤ value.natAbs else doubleLimit ≤ value.natAbs

/-- To nearest even a magnitude overflows from the threshold on. -/
theorem Format.IsRounding.overflow_iff {format : Format} {negative : Bool} {x : ℝ}
    {result : Rounded} (rounding : format.IsRounding .nearestEven negative x result)
    (nonneg : 0 ≤ x) : result.flags.overflow = true ↔ format.overflowThreshold ≤ x := by
  rcases nonneg.eq_or_lt with rfl | positive
  · rw [rounding.unique (format.zero_isRounding .nearestEven negative)]
    exact iff_of_false Bool.false_ne_true (not_le.mpr format.overflowThreshold_pos)
  · rw [rounding.unique (format.roundReal_isRounding .nearestEven negative positive),
      roundReal_overflow]
    exact (format.ordinalOf_nearestEven negative positive).infinityOrdinal_le_iff positive
      fun last => last ▸ format.not_even_last

theorem Format.overflowThreshold_double :
    Format.double.overflowThreshold = (doubleLimit : ℝ) := by
  have emax : Format.double.emax = (970 + 53 : ℕ) := rfl
  have precision : Format.double.precision = 53 := rfl
  rw [Format.overflowThreshold, emax, precision, zpow_natCast, zpow_neg, zpow_natCast, pow_add]
  simp only [doubleLimit, Nat.cast_mul, Nat.cast_pow, Nat.cast_ofNat]
  generalize (2 : ℝ) ^ 970 = unit
  norm_num
  ring

theorem overflow_roundInteger_iff (value : ℤ) :
    (Format.double.roundInteger .nearestEven value).flags.overflow = true ↔
      doubleLimit ≤ value.natAbs := by
  have rounding := Format.double.roundExact_isRounding .nearestEven (decide (value < 0))
    value.natAbs 0
  have overflow := rounding.overflow_iff (by positivity)
  rwa [Format.overflowThreshold_double, zpow_zero, mul_one, Nat.cast_le] at overflow

theorem doubleOfInteger_completes (value : ℤ) :
    Completes (doubleLimit ≤ value.natAbs) (doubleOfInteger value) := by
  rw [← overflow_roundInteger_iff]
  unfold doubleOfInteger
  dsimp only
  split
  · next raised => exact .error (Or.inl rfl) raised
  · next none => exact .ok none

namespace Value

variable {value : Value}

/-- A number is its only entry. -/
theorem toCarrier_of_isNumber (number : value.IsNumber) (carrier : Carrier) :
    value.toCarrier carrier = scalarToCarrier carrier value := by
  have single (given : Except Fault ℕ) :
      (given.map ([·])).map (fun patterns => patterns.headD 0) = given := by
    cases given <;> rfl
  cases value with
  | none => exact number.elim
  | text _ => exact number.elim
  | bits _ => exact number.elim
  | tuple _ => exact number.elim
  | bool value => exact single (scalarToCarrier carrier (.bool value))
  | int value => exact single (scalarToCarrier carrier (.int value))
  | number pattern => exact single (scalarToCarrier carrier (.number pattern))
  | scalar source pattern => exact single (scalarToCarrier carrier (.scalar source pattern))
  | fixed kind value => exact single (scalarToCarrier carrier (.fixed kind value))

/-- A number is converted to a machine type, unless it is an integer that this refuses. -/
theorem scalarToCarrier_completes (number : value.IsNumber) (carrier : Carrier) :
    Completes (∃ integer, value = .int integer ∧ carrier.Refuses integer)
      (scalarToCarrier carrier value) := by
  cases value with
  | none => exact number.elim
  | text _ => exact number.elim
  | bits _ => exact number.elim
  | tuple _ => exact number.elim
  | bool _ => exact .ok fun ⟨_, same, _⟩ => absurd same nofun
  | number _ => exact .ok fun ⟨_, same, _⟩ => absurd same nofun
  | scalar _ _ => exact .ok fun ⟨_, same, _⟩ => absurd same nofun
  | fixed _ _ => exact .ok fun ⟨_, same, _⟩ => absurd same nofun
  | int value =>
    simp only [Value.int.injEq, exists_eq_left']
    unfold scalarToCarrier Carrier.Refuses
    dsimp only
    split
    · split
      · next writable => exact .ok (not_le.mpr (of_decide_eq_true writable))
      · next long => exact .error (Or.inr rfl) (not_lt.mp (mt decide_eq_true long))
    · exact (doubleOfInteger_completes value).map _

theorem toFormat_completes (number : value.IsNumber) {format : Format} {carrier : Carrier}
    (stored : format.carrier? = some carrier) :
    Completes (∃ integer, value = .int integer ∧ carrier.Refuses integer)
      (value.toFormat format) := by
  unfold toFormat
  rw [stored]
  dsimp only
  rw [toCarrier_of_isNumber number]
  exact scalarToCarrier_completes number carrier

end Value

/-! ## Integers -/

/-- A number is compared with an integer, unless they do not match and one of them has too many
digits to be shown. -/
theorem judgeInteger_completes (routine : Routine) (expected : ℤ) {result : Value}
    (number : result.IsNumber) :
    Completes (∃ actual, result.toInteger? = some actual ∧
        routine.integerMatches expected actual = false ∧
        (10 ^ digitLimit ≤ expected.natAbs ∨ 10 ^ digitLimit ≤ actual.natAbs))
      (judgeInteger routine expected result) := by
  unfold judgeInteger
  cases integer : result.toInteger? with
  | none =>
    have shown : result.integers.all isWritable = true := by
      cases result with
      | tuple _ => exact number.elim
      | int _ => exact absurd integer nofun
      | _ => rfl
    dsimp only
    rw [if_pos shown]
    exact .ok fun ⟨_, same, _⟩ => absurd same nofun
  | some actual =>
    simp only [Option.some.injEq, exists_eq_left']
    have long (value : ℤ) : isWritable value = false ↔ 10 ^ digitLimit ≤ value.natAbs := by
      rw [isWritable, decide_eq_false_iff_not, not_lt]
    rw [← long, ← long, ← Bool.and_eq_false_iff]
    split
    · next same => exact .ok fun large => absurd same (Bool.eq_false_iff.mp large.1)
    · next other =>
      have other := Bool.eq_false_iff.mpr other
      split
      · next shown => exact .ok fun large => absurd shown (Bool.eq_false_iff.mp large.2)
      · next hidden => exact .error (Or.inr rfl) ⟨other, Bool.eq_false_iff.mpr hidden⟩

/-! ## Comparisons -/

namespace Trial

variable {table : Table} {policy : Policy} {trial : Trial}

/-- A comparison that cannot be made: the result is an integer that the type of the table refuses,
or an integer that does not match, where this or what is expected has too many digits to be
shown. -/
def IsOversized (table : Table) (trial : Trial) : Prop :=
  match trial.expected with
  | .float _ => ∃ carrier, table.context.format.carrier? = some carrier ∧
      ∃ integer, trial.result = .int integer ∧ carrier.Refuses integer
  | .int value => ∃ actual, trial.result.toInteger? = some actual ∧
      table.routine.integerMatches value actual = false ∧
      (10 ^ digitLimit ≤ value.natAbs ∨ 10 ^ digitLimit ≤ actual.natAbs)

theorem check_completes (stored : table.IsSound) (sound : trial.IsSound table)
    (number : trial.result.IsNumber) :
    Completes (trial.IsOversized table) (trial.check table policy) := by
  unfold IsOversized
  cases expected : trial.expected with
  | float pattern =>
    obtain ⟨carrier, same⟩ := stored.stored
    have converts := trial.result.toFormat_completes number same
    dsimp only
    rw [same]
    simp only [Option.some.injEq, exists_eq_left']
    cases converted : trial.result.toFormat table.context.format with
    | ok actual =>
      rw [converted] at converts
      obtain ⟨found, checked, -⟩ := check_float policy stored sound expected converted
      rw [checked]
      cases converts with
      | ok small => exact .ok small
    | error fault =>
      rw [converted] at converts
      rw [check_float_of_error expected converted]
      cases converts with
      | error reason large => exact .error reason large
  | int value =>
    rw [check_int expected]
    exact (judgeInteger_completes table.routine value number).map _

end Trial

variable {table : Table} {policy : Policy}

/-- Comparisons are made one after the other, up to the first that is oversized. -/
theorem gather_completes {trials : List Trial}
    (each : ∀ trial ∈ trials, Completes (trial.IsOversized table) (trial.check table policy))
    (tally : Tally) :
    Completes (∃ trial ∈ trials, trial.IsOversized table) (gather table policy trials tally) := by
  induction trials generalizing tally with
  | nil => exact .ok fun ⟨_, member, _⟩ => absurd member List.not_mem_nil
  | cons trial rest ih =>
    obtain ⟨first, others⟩ := List.forall_mem_cons.mp each
    simp only [List.mem_cons, exists_eq_or_imp]
    rw [gather_cons]
    exact (first.map _).bind (ih others)

/-! ## Runs -/

/-- What a run compares is a number, if the results are numbers of the shape of the routine. -/
theorem Table.isNumber_of_mem_trials {results : List Value}
    (numbers : ∀ value ∈ results, value.IsResultOf table.routine) {trial : Trial}
    (member : trial ∈ table.trials policy (results.map .ok)) : trial.result.IsNumber := by
  obtain ⟨vector, result, pair, position, wanted, output, -, -, found, rfl⟩ :=
    mem_trials_iff.mp member
  obtain ⟨value, inside, rfl⟩ := List.mem_map.mp (List.of_mem_zip pair).2
  obtain ⟨outputs, shaped, each⟩ := (numbers value inside).unpack
  have same : outputsOf table.routine (.ok value) = outputs := outputsOf_eq shaped
  rw [same] at found
  exact each output (List.mem_of_getElem? found)

/-- A run over as many numbers as there are vectors compares all vectors. The outputs that fail are
those that are compared and do not agree. It ends only at a comparison that is oversized. -/
theorem Table.run_numbers {routine : Routine} {context : Context} {rows : List Value}
    {name : Option String} (rowsSound : ∀ row ∈ rows, row.IsSound)
    (built : ofRows routine context rows name = .ok table)
    (wide : policy.checked.length = table.routine.shape.outputs.length) {results : List Value}
    (each : results.length = table.vectors.length)
    (numbers : ∀ value ∈ results, value.IsResultOf table.routine ∧ value.IsSound) (mode : Mode) :
    (∀ verdict, table.run policy mode (results.map .ok) = .ok verdict →
      (∀ trial ∈ table.trials policy (results.map .ok), ¬ trial.IsOversized table) ∧
      verdict.ran = table.vectors.length ∧
      ∀ index output, verdict.Fails index output ↔
        ∃ trial ∈ table.trials policy (results.map .ok), ¬ trial.Agrees table policy ∧
          trial.vector.index = index ∧ trial.output = output) ∧
    ∀ fault, table.run policy mode (results.map .ok) = .error fault →
      (fault = .integerTooLarge ∨ fault = .integerTooLongToWrite) ∧
        ∃ trial ∈ table.trials policy (results.map .ok), trial.IsOversized table := by
  have stored := isSound_of_ofRows rowsSound built
  have sound : ∀ value, .ok value ∈ results.map (Except.ok : Value → Except Fault Value) →
      value.IsSound := by
    intro value member
    obtain ⟨_, inside, ⟨⟩⟩ := List.mem_map.mp member
    exact (numbers value inside).2
  have shaped : table.Shaped table.vectors (results.map .ok) := by
    intro pair member
    obtain ⟨value, inside, same⟩ := List.mem_map.mp (List.of_mem_zip member).2
    obtain ⟨outputs, unpacked, -⟩ := (numbers value inside).1.unpack
    rw [← same]
    exact ⟨outputs, unpacked⟩
  have compares : ∀ trial ∈ table.trials policy (results.map .ok),
      Completes (trial.IsOversized table) (trial.check table policy) := by
    intro trial member
    exact Trial.check_completes stored (isSound_of_mem_trials stored sound member)
      (isNumber_of_mem_trials (fun value inside => (numbers value inside).1) member)
  constructor
  · intro verdict ran
    obtain ⟨-, -, compared, rfl⟩ := run_eq_ok_iff.mp ran
    refine ⟨fun trial member => ?_, ?_, fun index output => fails_iff stored sound compared⟩
    · obtain ⟨found, checked⟩ := compared trial member
      have completes := compares trial member
      rw [checked] at completes
      cases completes with
      | ok small => exact small
    · rw [account, List.length_map, each, min_self]
  · intro fault ended
    have completes := gather_completes compares {}
    rw [run_eq wide shaped] at ended
    cases gathered : gather table policy (table.trials policy (results.map .ok)) {} with
    | ok tally =>
      rw [gathered] at ended
      exact absurd ended nofun
    | error other =>
      rw [gathered] at ended completes
      obtain rfl := Except.error.inj ended
      cases completes with
      | error reason large => exact ⟨reason, large⟩

/-- An integer that no double is close to, as the absolute value of one, ends the run. -/
theorem Table.run_integerTooLarge :
    ∃ table, ofRows .fabs ⟨Format.double, .nearestEven, []⟩ [.tuple [.text "1", .text "1"]]
        (some "one") = .ok table ∧
      table.run (.default .fabs) .nearestEven [.ok (.int (2 ^ 1024))] = .error .integerTooLarge ∧
      Fault.integerTooLarge.category = .overflow := by
  obtain ⟨table, built, same⟩ : ∃ table, ofRows .fabs ⟨Format.double, .nearestEven, []⟩
      [.tuple [.text "1", .text "1"]] (some "one") = .ok table ∧
        table = ⟨.fabs, ⟨Format.double, .nearestEven, []⟩, "one",
          [⟨0, [.float 4607182418800017408], [some (.float 4607182418800017408)]⟩]⟩ :=
    ⟨_, rfl, rfl⟩
  refine ⟨table, built, ?_, rfl⟩
  have large : doubleLimit ≤ (2 ^ 1024 : ℤ).natAbs := by decide +kernel
  generalize (2 ^ 1024 : ℤ) = value at large
  have refused : (Value.int value).toFormat table.context.format = .error .integerTooLarge := by
    have double : doubleOfInteger value = .error .integerTooLarge :=
      if_pos ((overflow_roundInteger_iff value).mpr large)
    have number : (Value.int value).IsNumber := trivial
    have carrier : (Value.int value).toFormat table.context.format =
        (doubleOfInteger value).map (Carrier.double.convert .double) := by
      rw [same]
      exact Value.toCarrier_of_isNumber number .double
    rw [carrier, double]
    rfl
  have shaped : table.Shaped table.vectors [.ok (.int value)] := by
    rw [same]
    intro pair member
    rw [List.mem_singleton.mp member]
    exact ⟨_, rfl⟩
  have trials : table.trials (.default .fabs) [.ok (.int value)] =
      [⟨⟨0, [.float 4607182418800017408], [some (.float 4607182418800017408)]⟩, 0,
        .float 4607182418800017408, .int value⟩] := by
    rw [same]
    rfl
  have wide : (Policy.default .fabs).checked.length = table.routine.shape.outputs.length := by
    rw [same]
    rfl
  rw [run_eq wide shaped, trials, gather_cons, Trial.check_float_of_error rfl refused]
  rfl

/-- Minus one as the absolute value of one fails. -/
theorem Table.run_numbers_fabs :
    ∃ table verdict,
      ofRows .fabs ⟨Format.double, .nearestEven, []⟩ [.tuple [.text "1", .text "1"]]
          (some "one") = .ok table ∧
        table.run (.default .fabs) .nearestEven [.ok (.number 13830554455654793216)] =
          .ok verdict ∧
        verdict.Fails 0 0 ∧ verdict.ran = table.vectors.length ∧
        ∃ trial ∈ table.trials (.default .fabs) [.ok (.number 13830554455654793216)],
          ¬ trial.Agrees table (.default .fabs) ∧ ¬ trial.IsOversized table := by
  have built : ofRows .fabs ⟨Format.double, .nearestEven, []⟩ [.tuple [.text "1", .text "1"]]
      (some "one") = .ok ⟨.fabs, ⟨Format.double, .nearestEven, []⟩, "one",
        [⟨0, [.float 4607182418800017408], [some (.float 4607182418800017408)]⟩]⟩ := by rfl
  have rowsSound : ∀ row ∈ [Value.tuple [.text "1", .text "1"]], row.IsSound := by
    intro row member
    rw [List.mem_singleton.mp member]
    exact ⟨trivial, trivial, trivial⟩
  have numbers : ∀ value ∈ [Value.number 13830554455654793216],
      value.IsResultOf .fabs ∧ value.IsSound := by
    intro value member
    rw [List.mem_singleton.mp member]
    exact ⟨trivial, (by decide : 13830554455654793216 < 2 ^ Format.double.totalBits)⟩
  have ran : run ⟨.fabs, ⟨Format.double, .nearestEven, []⟩, "one",
      [⟨0, [.float 4607182418800017408], [some (.float 4607182418800017408)]⟩]⟩ (.default .fabs)
        .nearestEven [.ok (.number 13830554455654793216)] =
      .ok ⟨.fabs, ⟨Format.double, .nearestEven, []⟩, 1,
        [⟨0, 0, [.float 4607182418800017408], .float 4607182418800017408,
          some (.float 13830554455654793216), .sign, some .unbounded,
          "result has the wrong sign"⟩], 0, .nearestEven, .default .fabs⟩ := by rfl
  obtain ⟨small, whole, fails⟩ :=
    (run_numbers rowsSound built rfl rfl numbers .nearestEven).1 _ ran
  obtain ⟨trial, member, differs, -⟩ := (fails 0 0).mp ⟨_, List.mem_cons_self, rfl, rfl⟩
  exact ⟨_, _, built, ran, ⟨_, List.mem_cons_self, rfl, rfl⟩, whole, trial, member, differs,
    small trial member⟩

end LibmAudit
