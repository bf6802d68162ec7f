/-
**The reference library in the six modes.**

* `ResponsesCohere`, `CallsCohere`: calls in the six modes that end with one fault or give outputs
  that bracket each other, with the same exceptions but overflow.
* `CallsCohere.of_runs`, `of_pair`: one rounded output, and two of them.
* `Reference.call_brackets`: the calls of the routines that round results of multiprecision
  operations or of scaling.
-/

import LibmAudit.Library.Choice
import LibmAudit.Proofs.Reference.Outputs
import LibmAudit.Proofs.Remainder.Correct

namespace LibmAudit

attribute [local instance (high)] instPowNat

variable {format : Format}

/-! ## Calls -/

/-- Responses in the six modes whose float outputs bracket each other, with the same exceptions but
overflow. -/
structure ResponsesCohere (format : Format) (zeroSigns : Bool) (slots : List Slot)
    (response : Mode → Response) : Prop where
  brackets : ∀ output : ℕ, slots[output]? = some .float → ∃ pattern : Mode → ℕ,
    (∀ mode, (response mode).outputs[output]? = some (.float (pattern mode))) ∧
      format.Brackets zeroSigns pattern fun mode => (response mode).flags.inexact
  invalid : ∀ mode mode', (response mode).flags.invalid = (response mode').flags.invalid
  divideByZero : ∀ mode mode',
    (response mode).flags.divideByZero = (response mode').flags.divideByZero
  underflow : ∀ mode mode', (response mode).flags.underflow = (response mode').flags.underflow

/-- Calls in the six modes that end with one fault or give such responses. -/
def CallsCohere (format : Format) (zeroSigns : Bool) (slots : List Slot)
    (call : Mode → Except Fault Response) : Prop :=
  (∃ fault, ∀ mode, call mode = .error fault) ∨
    ∃ response : Mode → Response, (∀ mode, call mode = .ok (response mode)) ∧
      ResponsesCohere format zeroSigns slots response

namespace CallsCohere

variable {zeroSigns : Bool} {slots : List Slot} {run run' : Mode → Except Fault Rounded}

theorem error (fault : Fault) : CallsCohere format zeroSigns slots fun _ => .error fault :=
  Or.inl ⟨fault, fun _ => rfl⟩

/-- One rounded output, and integers that do not depend on the mode. -/
theorem of_runs (runs : format.RunsCohere zeroSigns run) (integers : List ℤ) :
    CallsCohere format zeroSigns (.float :: integers.map fun _ => .int) fun mode =>
      (run mode).map fun rounded =>
        ⟨.float rounded.pattern :: integers.map .int, rounded.flags⟩ := by
  rcases runs with ⟨fault, same⟩ | ⟨rounded, same, coheres⟩
  · simp only [same]
    exact .error fault
  · simp only [same]
    refine Or.inr ⟨_, fun _ => rfl, fun output slot => ?_, coheres.invalid, coheres.divideByZero,
      coheres.underflow⟩
    cases output with
    | zero => exact ⟨_, fun _ => rfl, coheres.brackets⟩
    | succ output =>
      rw [List.getElem?_cons_succ, List.getElem?_map, Option.map_eq_some_iff] at slot
      obtain ⟨-, -, kind⟩ := slot
      exact absurd kind nofun

/-- Two rounded outputs that are inexact in the same modes. -/
theorem of_pair (runs : format.RunsCohere zeroSigns run)
    (runs' : format.RunsCohere zeroSigns run')
    (same : ∀ mode rounded rounded', run mode = .ok rounded → run' mode = .ok rounded' →
      rounded.flags.inexact = rounded'.flags.inexact) :
    CallsCohere format zeroSigns [.float, .float] fun mode => do
      let rounded ← run mode
      let rounded' ← run' mode
      return ⟨[.float rounded.pattern, .float rounded'.pattern],
        rounded.flags.union rounded'.flags⟩ := by
  rcases runs with ⟨fault, stopped⟩ | ⟨rounded, given, coheres⟩
  · simp only [stopped]
    exact .error fault
  rcases runs' with ⟨fault, stopped⟩ | ⟨rounded', given', coheres'⟩
  · simp only [given, stopped]
    exact .error fault
  have first (mode : Mode) : ((rounded mode).flags.union (rounded' mode).flags).inexact =
      (rounded mode).flags.inexact := by
    rw [Flags.union, ← same mode _ _ (given mode) (given' mode), Bool.or_self]
  have second (mode : Mode) : ((rounded mode).flags.union (rounded' mode).flags).inexact =
      (rounded' mode).flags.inexact :=
    (first mode).trans (same mode _ _ (given mode) (given' mode))
  simp only [given, given']
  refine Or.inr ⟨_, fun _ => rfl, fun output slot => ?_, fun mode mode' => ?_, fun mode mode' => ?_,
    fun mode mode' => ?_⟩
  · rcases output with _ | _ | output
    · refine ⟨fun mode => (rounded mode).pattern, fun _ => rfl, ?_⟩
      simp only [first]
      exact coheres.brackets
    · refine ⟨fun mode => (rounded' mode).pattern, fun _ => rfl, ?_⟩
      simp only [second]
      exact coheres'.brackets
    · simp at slot
  · exact congrArg₂ or (coheres.invalid mode mode') (coheres'.invalid mode mode')
  · exact congrArg₂ or (coheres.divideByZero mode mode') (coheres'.divideByZero mode mode')
  · exact congrArg₂ or (coheres.underflow mode mode') (coheres'.underflow mode mode')

end CallsCohere

namespace LibraryKind

/-- The numbers of operands are right if they are not refused. -/
theorem eq_length_of_checkCount {kind : LibraryKind} {routine : Routine} {given : ℕ}
    (handsOn : kind.handsOn routine = false) (ok : kind.checkCount routine given = .ok ()) :
    given = (kind.operandNames routine).length := by
  unfold checkCount at ok
  rw [handsOn] at ok
  cases problem : countProblem? (kind.operandNames routine) given with
  | some problem' =>
    rw [problem] at ok
    exact absurd ok nofun
  | none =>
    unfold countProblem? at problem
    split_ifs at problem
    omega

/-- A wrong number of operands is refused in every mode. -/
theorem call_callsCohere {zeroSigns : Bool} {slots : List Slot} {routine : Routine} {count : ℕ}
    (none : Reference.operation? routine = none)
    (names : (reference.operandNames routine).length = count) (operands : List SlotValue)
    (calls : operands.length = count → CallsCohere format zeroSigns slots fun mode =>
      Reference.call routine format mode operands) :
    CallsCohere format zeroSigns slots fun mode => reference.call routine format mode operands := by
  have handsOn : reference.handsOn routine = false := by
    rw [LibraryKind.handsOn, none]
    rfl
  unfold LibraryKind.call
  cases checked : reference.checkCount routine operands.length with
  | error fault => exact .error fault
  | ok _ => exact calls ((eq_length_of_checkCount handsOn checked).trans names)

end LibraryKind

/-! ## Routines -/

/-- The lowest place of a machine type is below the point. -/
theorem Carrier.lowestPlace_nonpos (carrier : Carrier) : carrier.format.lowestPlace ≤ 0 := by
  cases carrier <;> decide

/-- Products of values of a machine type are above the end of the exponent range. -/
theorem Carrier.limit_le_lowestPlace (carrier : Carrier) :
    -exponentLimit ≤ carrier.format.lowestPlace + carrier.format.lowestPlace := by
  cases carrier <;> decide

/-- So are the sums of such products below its other end. -/
theorem Carrier.product_le_limit (carrier : Carrier) :
    2 * carrier.format.emax + 3 ≤ exponentLimit := by
  cases carrier <;> decide

namespace Reference

/-- An operation on patterns. -/
theorem operationPattern_runsCohere (operator : Operation) (patterns : List ℕ) :
    format.RunsCohere false fun mode => operationPattern operator format mode false patterns := by
  unfold operationPattern
  split
  · exact .const rfl
  · exact operator.evaluateInto_runsCohere patterns

theorem operation_callsCohere (zeroSigns : Bool) (operator : Operation) (patterns : List ℕ) :
    CallsCohere format zeroSigns [.float] fun mode => operation operator format mode patterns :=
  .of_runs ((operationPattern_runsCohere operator patterns).weaken zeroSigns) []

theorem ofPattern_callsCohere {zeroSigns : Bool} (pattern : ℕ) {flags : Flags}
    (exact : flags.inexact = false) :
    CallsCohere format zeroSigns [.float] fun _ => .ok (.ofPattern pattern flags) := by
  have once : format.RunsCohere zeroSigns fun _ => .ok ⟨pattern, flags⟩ := .const exact
  exact .of_runs once []

theorem fdim_callsCohere (first second : ℕ) :
    CallsCohere format false [.float] fun mode => fdim format mode first second := by
  unfold fdim
  split
  · exact ofPattern_callsCohere _ rfl
  split
  · exact operation_callsCohere _ _ _
  · exact ofPattern_callsCohere _ rfl

theorem hypot_callsCohere (first second : ℕ) :
    CallsCohere format false [.float] fun mode => hypot format mode first second := by
  unfold hypot
  split
  · exact ofPattern_callsCohere _ rfl
  · exact operation_callsCohere _ _ _

theorem pow_callsCohere (first second : ℕ) :
    CallsCohere format false [.float] fun mode => pow format mode first second := by
  unfold pow
  split
  · exact ofPattern_callsCohere _ rfl
  · exact operation_callsCohere _ _ _

theorem ldexp_callsCohere (pattern : ℕ) (power : ℤ) :
    CallsCohere format false [.float] fun mode => ldexp format mode pattern power := by
  unfold ldexp
  split
  · exact ofPattern_callsCohere _ rfl
  · exact .of_runs (format.round_runsCohere _ _ _ _) []

theorem scalb_callsCohere (first second : ℕ) :
    CallsCohere format false [.float] fun mode => scalb format mode first second := by
  unfold scalb
  dsimp only
  split_ifs
  all_goals try exact ofPattern_callsCohere _ rfl
  split
  · exact ofPattern_callsCohere _ rfl
  · exact ldexp_callsCohere _ _

theorem lgammaWithSign_callsCohere (pattern : ℕ) :
    CallsCohere format false [.float, .int] fun mode => lgammaWithSign format mode pattern :=
  .of_runs (operationPattern_runsCohere .lgamma [pattern]) [gammaSign format pattern]

theorem fma_callsCohere (nonpos : format.lowestPlace ≤ 0)
    (inRange : -exponentLimit ≤ format.lowestPlace + format.lowestPlace) (patterns : List ℕ) :
    CallsCohere format true [.float] fun mode => fma format mode patterns := by
  refine .of_runs ?_ []
  unfold operationPattern
  split
  · exact .const rfl
  · exact Operation.fma_runsCohere nonpos inRange patterns

theorem sincos_callsCohere (ranged : format.emax + format.fractionBits < exponentLimit)
    (pattern : ℕ) :
    CallsCohere format false [.float, .float] fun mode => sincos format mode pattern := by
  refine .of_pair (operationPattern_runsCohere .sin [pattern])
    (operationPattern_runsCohere .cos [pattern]) fun mode sine cosine first second => ?_
  unfold operationPattern at first second
  by_cases none : anyNaN format [pattern] = true
  · rw [if_pos none] at first second
    rw [← Except.ok.inj first, ← Except.ok.inj second]
  · rw [if_neg none] at first second
    exact Operation.inexact_of_sincos ranged first second

/-- The routines that round results of a multiprecision operation or of scaling in the mode. -/
def roundsInMode (routine : Routine) : Bool :=
  (operation? routine).isSome ||
    [.fdim, .hypot, .pow, .fma, .sincos, .lgamma_r, .ldexp, .scalbn, .scalb].contains routine

variable {zeroSigns : Bool} {slots : List Slot} {routine : Routine}

/-- Routines of one float operand. -/
theorem call_unary_callsCohere (none : operation? routine = none)
    (names : (LibraryKind.reference.operandNames routine).length = 1)
    (calls : ∀ pattern, CallsCohere format zeroSigns slots fun mode =>
      callUnary routine format mode pattern) (operands : List SlotValue) :
    CallsCohere format zeroSigns slots fun mode =>
      LibraryKind.reference.call routine format mode operands := by
  refine LibraryKind.call_callsCohere none names operands fun count => ?_
  obtain ⟨operand, rfl⟩ := List.length_eq_one_iff.mp count
  unfold call
  simp only [none]
  cases operand with
  | float pattern => exact calls pattern
  | int value => exact .error _

/-- Routines of two operands, of which the second may be an integer. -/
theorem call_binary_callsCohere (none : operation? routine = none)
    (names : (LibraryKind.reference.operandNames routine).length = 2)
    (calls : ∀ first second, CallsCohere format false [.float] fun mode =>
      callBinary routine format mode first second) (operands : List SlotValue) :
    CallsCohere format false [.float] fun mode =>
      LibraryKind.reference.call routine format mode operands := by
  refine LibraryKind.call_callsCohere none names operands fun count => ?_
  obtain ⟨first, second, rfl⟩ := List.length_eq_two.mp count
  unfold call
  simp only [none]
  cases first with
  | float pattern =>
    cases second with
    | float other => exact calls pattern other
    | int power => exact ldexp_callsCohere pattern power
  | int value => exact .error _

theorem call_fma_callsCohere (nonpos : format.lowestPlace ≤ 0)
    (inRange : -exponentLimit ≤ format.lowestPlace + format.lowestPlace)
    (operands : List SlotValue) :
    CallsCohere format true [.float] fun mode =>
      LibraryKind.reference.call .fma format mode operands := by
  refine LibraryKind.call_callsCohere rfl rfl operands fun count => ?_
  obtain ⟨first, second, third, rfl⟩ := List.length_eq_three.mp count
  match first, second, third with
  | .float _, .float _, .float _ => exact fma_callsCohere nonpos inRange _
  | .int _, _, _ => exact .error _
  | .float _, .int _, _ => exact .error _
  | .float _, .float _, .int _ => exact .error _

/-- The modes bracket each other: for the routines that round and any operands, either all modes
end with one fault, or each float output is a NaN in all modes, or exact and the same value, or
inexact with up next to down and every other mode at one of these two. Only exact zeros of a sum of
a product may differ in their signs, and only overflow may depend on the mode.

Nothing is used of the values that the multiprecision operations compute: any result that marks its
errors is bracketed (`Operation.bind_finish_runsCohere`). Of single operations only this is used
besides: a sine has an error where the cosine has one, and a product plus a third number that is
cut to zero is an exact zero. -/
theorem call_brackets {carrier : Carrier} (stored : format.carrier? = some carrier)
    {routine : Routine} (rounds : roundsInMode routine = true) (operands : List SlotValue) :
    CallsCohere format (decide (routine = .fma)) routine.shape.outputs fun mode =>
      LibraryKind.reference.call routine format mode operands := by
  obtain rfl := Format.format_of_carrier? stored
  rw [roundsInMode, Bool.or_eq_true] at rounds
  rcases rounds with operates | rounds
  · obtain ⟨operator, is⟩ := Option.isSome_iff_exists.mp operates
    have called (mode : Mode) : LibraryKind.reference.call routine carrier.format mode operands =
        operation operator carrier.format mode (patternsOf operands) := by
      have handsOn : LibraryKind.reference.handsOn routine = true := by
        rw [LibraryKind.handsOn, is]
        rfl
      unfold LibraryKind.call LibraryKind.checkCount call
      simp only [handsOn, is]
      rfl
    rw [outputs_of_operation? operates]
    simp only [called]
    exact operation_callsCohere _ _ _
  · simp only [List.contains_cons, List.contains_nil, Bool.or_false, Bool.or_eq_true, beq_iff_eq]
      at rounds
    rcases rounds with rfl | rfl | rfl | rfl | rfl | rfl | rfl | rfl | rfl
    · exact call_binary_callsCohere rfl rfl fdim_callsCohere operands
    · exact call_binary_callsCohere rfl rfl hypot_callsCohere operands
    · exact call_binary_callsCohere rfl rfl pow_callsCohere operands
    · exact call_fma_callsCohere carrier.lowestPlace_nonpos carrier.limit_le_lowestPlace operands
    · exact call_unary_callsCohere rfl rfl (sincos_callsCohere carrier.ranged) operands
    · exact call_unary_callsCohere rfl rfl lgammaWithSign_callsCohere operands
    -- Scaling has an integer operand, and two floats are refused.
    · exact call_binary_callsCohere rfl rfl (fun _ _ => .error _) operands
    · exact call_binary_callsCohere rfl rfl (fun _ _ => .error _) operands
    · exact call_binary_callsCohere rfl rfl scalb_callsCohere operands

/-- Half of the least magnitude in the six modes, between zero and that magnitude. -/
theorem call_brackets_ldexp :
    Format.half.carrier? = some .half ∧ roundsInMode .ldexp = true ∧
      LibraryKind.reference.call .ldexp .half .down [.float 1, .int (-1)] =
        .ok ⟨[.float 0], { underflow := true, inexact := true }⟩ ∧
      LibraryKind.reference.call .ldexp .half .up [.float 1, .int (-1)] =
        .ok ⟨[.float 1], { underflow := true, inexact := true }⟩ ∧
      CallsCohere .half false [.float] fun mode =>
        LibraryKind.reference.call .ldexp .half mode [.float 1, .int (-1)] := by
  have stored : Format.half.carrier? = some .half := by decide
  have rounds : roundsInMode .ldexp = true := rfl
  exact ⟨stored, rounds, rfl, rfl, call_brackets stored rounds _⟩

end Reference

end LibmAudit
