/-
**Reference calls as actions.**

A reference call is a pure function of its operands and the mode, with exceptions that are added to
those of the innermost environment.

* `Routine.operands_cases`: the operands of a routine by their kinds.
* `Action.Delivers`: the actions that give what a pure function of the mode gives. One that stops
  with a fault has raised nothing.
* `Reference.perform_delivers`: all routines are such actions. The only one that raises exceptions
  before it has all its outputs is the pair of sine and cosine, and there the cosine does not stop
  any more (`Operation.cos_completes`).
* `Reference.call_isQuiet`: NaN operands lead to no exceptions, except in `ilogb`.
* `LibraryKind.on_perform`: what a call of either library does to a stack.
* `LibraryKind.perform_pure`: the same of the reference library, environment by environment.
-/

import LibmAudit.Proofs.Environment.Stack
import LibmAudit.Proofs.Multiprecision.Completion
import LibmAudit.Proofs.Reference.Outputs
import LibmAudit.Proofs.Reference.Parts

namespace LibmAudit

attribute [local instance (high)] instPowNat

variable {format : Format}

/-! ## Operands by kind -/

namespace SlotValue

variable {operands : List SlotValue}

theorem eq_float_of_slot {operand : SlotValue} (kind : operand.slot = .float) :
    ∃ pattern, operand = .float pattern := by
  cases operand with
  | float pattern => exact ⟨pattern, rfl⟩
  | int => cases kind

theorem eq_int_of_slot {operand : SlotValue} (kind : operand.slot = .int) :
    ∃ value, operand = .int value := by
  cases operand with
  | float => cases kind
  | int value => exact ⟨value, rfl⟩

theorem eq_float_of_slots (kinds : operands.map slot = [.float]) :
    ∃ pattern, operands = [.float pattern] := by
  obtain ⟨operand, rest, rfl, kind, none⟩ := List.map_eq_cons_iff.mp kinds
  obtain ⟨pattern, rfl⟩ := eq_float_of_slot kind
  obtain rfl := List.map_eq_nil_iff.mp none
  exact ⟨pattern, rfl⟩

theorem eq_floats_of_slots (kinds : operands.map slot = [.float, .float]) :
    ∃ first second, operands = [.float first, .float second] := by
  obtain ⟨operand, rest, rfl, kind, others⟩ := List.map_eq_cons_iff.mp kinds
  obtain ⟨first, rfl⟩ := eq_float_of_slot kind
  obtain ⟨second, rfl⟩ := eq_float_of_slots others
  exact ⟨first, second, rfl⟩

theorem eq_three_of_slots (kinds : operands.map slot = [.float, .float, .float]) :
    ∃ first second third, operands = [.float first, .float second, .float third] := by
  obtain ⟨operand, rest, rfl, kind, others⟩ := List.map_eq_cons_iff.mp kinds
  obtain ⟨first, rfl⟩ := eq_float_of_slot kind
  obtain ⟨second, third, rfl⟩ := eq_floats_of_slots others
  exact ⟨first, second, third, rfl⟩

theorem eq_scaled_of_slots (kinds : operands.map slot = [.float, .int]) :
    ∃ pattern power, operands = [.float pattern, .int power] := by
  obtain ⟨operand, rest, rfl, kind, others⟩ := List.map_eq_cons_iff.mp kinds
  obtain ⟨pattern, rfl⟩ := eq_float_of_slot kind
  obtain ⟨operand, rest, rfl, kind', none⟩ := List.map_eq_cons_iff.mp others
  obtain ⟨power, rfl⟩ := eq_int_of_slot kind'
  obtain rfl := List.map_eq_nil_iff.mp none
  exact ⟨pattern, power, rfl⟩

end SlotValue

/-- The operands of a routine are up to three floats, or a float and an integer. -/
theorem Routine.operands_cases {routine : Routine} {operands : List SlotValue}
    (kinds : operands.map SlotValue.slot = routine.shape.inputs) :
    (∃ pattern, operands = [.float pattern]) ∨
      (∃ first second, operands = [.float first, .float second]) ∨
      (∃ first second third, operands = [.float first, .float second, .float third]) ∨
      ∃ pattern power, operands = [.float pattern, .int power] := by
  generalize routine.shape = shape at kinds
  cases shape with
  | unary | unaryPair | unaryWithInt | toInt => exact Or.inl (SlotValue.eq_float_of_slots kinds)
  | binary | binaryWithInt => exact Or.inr (Or.inl (SlotValue.eq_floats_of_slots kinds))
  | ternary => exact Or.inr (Or.inr (Or.inl (SlotValue.eq_three_of_slots kinds)))
  | scale => exact Or.inr (Or.inr (Or.inr (SlotValue.eq_scaled_of_slots kinds)))

/-! ## Actions that give what a function gives -/

/-- What a call of a pure function does to a stack. -/
def EnvironmentStack.receive (stack : EnvironmentStack) :
    Except Fault Response → Except Fault (List SlotValue) × EnvironmentStack
  | .ok response => (.ok response.outputs, stack.raise response.flags)
  | .error fault => (.error fault, stack)

namespace Action

/-- The action gives what a function of the mode gives, and raises its exceptions. -/
def Delivers (action : Action (List SlotValue)) (respond : Mode → Except Fault Response) : Prop :=
  ∀ stack, action.on stack = stack.receive (respond stack.current.mode)

theorem Delivers.of_mode {next : Mode → Action (List SlotValue)}
    {respond : Mode → Except Fault Response}
    (each : ∀ mode stack, (next mode).on stack = stack.receive (respond mode)) :
    (mode >>= next).Delivers respond := by
  intro stack
  rw [on_bind, on_mode]
  exact each _ stack

theorem delivers_throw (fault : Fault) :
    (throw fault : Action (List SlotValue)).Delivers fun _ => .error fault := fun _ => rfl

end Action

namespace Reference

theorem on_deliver (response : Response) (stack : EnvironmentStack) :
    (deliver response).on stack = stack.receive (.ok response) := rfl

theorem on_finish (pattern : ℕ) (flags : Flags) (stack : EnvironmentStack) :
    (finish pattern flags).on stack = (.ok pattern, stack.raise flags) := rfl

theorem deliver_delivers (response : Response) :
    (deliver response).Delivers fun _ => .ok response := fun stack => on_deliver response stack

theorem on_deliver_ofExcept (result : Except Fault Response) (stack : EnvironmentStack) :
    (Action.ofExcept result >>= deliver).on stack = stack.receive result := by
  rw [Action.on_bind, Action.on_ofExcept]
  cases result with
  | error fault => rfl
  | ok response => exact on_deliver response stack

/-! ## Multiprecision operations -/

theorem on_performOperation (operation : Operation) (signedByMode : Bool) (patterns : List ℕ)
    (stack : EnvironmentStack) :
    (performOperation operation format signedByMode patterns).on stack =
      match operationPattern operation format stack.current.mode signedByMode patterns with
      | .ok rounded => (.ok rounded.pattern, stack.raise rounded.flags)
      | .error fault => (.error fault, stack) := by
  unfold performOperation operationPattern
  split
  · exact on_finish _ _ stack
  · simp only [Action.on_bind, Action.on_mode, Action.on_ofExcept, on_finish]
    cases operation.evaluateInto format stack.current.mode signedByMode patterns <;> rfl

theorem performAlone_delivers (operation : Operation) (signedByMode : Bool) (patterns : List ℕ) :
    (performAlone operation format signedByMode patterns).Delivers fun mode =>
      (operationPattern operation format mode signedByMode patterns).map .ofRounded := by
  intro stack
  rw [performAlone, Action.on_bind, on_performOperation]
  dsimp only
  cases operationPattern operation format stack.current.mode signedByMode patterns <;> rfl

/-- The cosine does not stop any more when the sine has raised its exceptions. -/
theorem performSincos_delivers (precise : format.precision < 2 ^ 15) (pattern : ℕ) :
    (performSincos format pattern).Delivers fun mode => sincos format mode pattern := by
  intro stack
  simp only [performSincos, sincos, Action.on_bind, on_performOperation]
  cases first : operationPattern .sin format stack.current.mode false [pattern] with
  | error fault => rfl
  | ok sine =>
    have completes : ∃ cosine,
        operationPattern .cos format stack.current.mode false [pattern] = .ok cosine := by
      unfold operationPattern at first ⊢
      by_cases nan : anyNaN format [pattern] = true
      · rw [if_pos nan]
        exact ⟨_, rfl⟩
      · rw [if_neg nan] at first ⊢
        exact Operation.cos_completes precise first
    obtain ⟨cosine, second⟩ := completes
    have mode : (stack.raise sine.flags).current.mode = stack.current.mode := by
      rw [EnvironmentStack.current_raise]
      rfl
    dsimp only
    rw [mode, second]
    dsimp only
    rw [EnvironmentStack.raise_raise]
    rfl

theorem performLgamma_delivers (pattern : ℕ) :
    (performLgamma format pattern).Delivers fun mode => lgammaWithSign format mode pattern := by
  intro stack
  unfold performLgamma lgammaWithSign
  split
  · next nan =>
    -- A NaN ends the routine before the operation, which would have ended at it without a trace.
    have same (mode : Mode) : operationPattern .lgamma format mode false [pattern] =
        .ok ⟨format.quietNaN false, .none⟩ := by
      rw [operationPattern, if_pos]
      simp [anyNaN, nan]
    have sign : gammaSign format pattern = 1 := by simp [gammaSign, nan]
    dsimp only
    rw [same, sign, Action.on_bind, on_finish]
    rfl
  · rw [Action.on_bind, on_performOperation]
    dsimp only
    cases operationPattern .lgamma format stack.current.mode false [pattern] <;> rfl

/-! ## Routines -/

theorem performFdim_delivers (first second : ℕ) :
    (performFdim format first second).Delivers fun mode => fdim format mode first second := by
  unfold performFdim fdim
  split
  · exact deliver_delivers _
  · split
    · exact performAlone_delivers _ _ _
    · exact deliver_delivers _

theorem performHypot_delivers (first second : ℕ) :
    (performHypot format first second).Delivers fun mode => hypot format mode first second := by
  unfold performHypot hypot
  split
  · exact deliver_delivers _
  · exact performAlone_delivers _ _ _

theorem performPow_delivers (first second : ℕ) :
    (performPow format first second).Delivers fun mode => pow format mode first second := by
  unfold performPow pow
  split
  · exact deliver_delivers _
  · exact performAlone_delivers _ _ _

theorem performUnary_delivers (precise : format.precision < 2 ^ 15) (routine : Routine)
    (pattern : ℕ) :
    (performUnary routine format pattern).Delivers fun mode =>
      callUnary routine format mode pattern := by
  cases routine
  case rint | nearbyint => exact .of_mode fun mode => on_deliver _
  case sincos => exact performSincos_delivers precise pattern
  case lgamma_r => exact performLgamma_delivers pattern
  all_goals first | exact deliver_delivers _ | exact Action.delivers_throw _

theorem performBinary_delivers (routine : Routine) (first second : ℕ) :
    (performBinary routine format first second).Delivers fun mode =>
      callBinary routine format mode first second := by
  cases routine
  case fdim => exact performFdim_delivers first second
  case hypot => exact performHypot_delivers first second
  case pow => exact performPow_delivers first second
  case scalb => exact .of_mode fun mode => on_deliver_ofExcept _
  case remquo => exact on_deliver_ofExcept _
  all_goals first | exact deliver_delivers _ | exact Action.delivers_throw _

/-- A routine gives what a function of its operands and the mode gives, whatever the operands
are. -/
theorem perform_delivers (precise : format.precision < 2 ^ 15) (routine : Routine)
    (operands : List SlotValue) :
    (perform routine format operands).Delivers fun mode => call routine format mode operands := by
  unfold perform call
  cases operation? routine with
  | some operator => exact performAlone_delivers operator false _
  | none =>
    -- Operands of any other shape than these four are refused, whatever the mode is.
    rcases operands with _ | ⟨first | _, rest⟩
    · exact Action.delivers_throw _
    · rcases rest with _ | ⟨second | power, rest⟩
      · exact performUnary_delivers precise routine first
      · rcases rest with _ | ⟨third | _, _ | _⟩
        · exact performBinary_delivers routine first second
        · exact performAlone_delivers .fma true [first, second, third]
        all_goals exact Action.delivers_throw _
      · rcases rest with _ | _
        · exact .of_mode fun mode => on_deliver_ofExcept _
        · exact Action.delivers_throw _
    · exact Action.delivers_throw _

/-! ## NaN operands -/

/-- A call that goes well and raises nothing. -/
def IsQuiet (call : Except Fault Response) : Prop :=
  ∃ response, call = .ok response ∧ response.flags = .none

theorem operation_isQuiet (operator : Operation) (mode : Mode) {patterns : List ℕ}
    (nan : anyNaN format patterns = true) :
    IsQuiet (operation operator format mode patterns) := by
  rw [operation, operationPattern, if_pos nan]
  exact ⟨_, rfl, rfl⟩

theorem callUnary_isQuiet {routine : Routine} (inputs : routine.shape.inputs = [.float])
    (none : operation? routine = none) (other : routine ≠ .ilogb) (mode : Mode) {pattern : ℕ}
    (nan : format.isNaN pattern = true) : IsQuiet (callUnary routine format mode pattern) := by
  have parts := parts?_of_isNaN nan
  have any : anyNaN format [pattern] = true := by simp [anyNaN, nan]
  cases routine <;> try first | exact absurd inputs (by decide) | exact absurd none (by decide)
  case ilogb => exact absurd rfl other
  case fabs | ceil | floor | trunc | round | nearbyint => exact ⟨_, rfl, rfl⟩
  case rint => exact ⟨_, rfl, by simp [rint, integral, parts, Response.ofPattern, Flags.none]⟩
  case modf => exact ⟨_, rfl, by simp [modf, nan]⟩
  case frexp => exact ⟨_, rfl, by simp [frexp, parts]⟩
  case logb => exact ⟨_, rfl, by simp [logb, parts, nan, Reference.nan, Response.ofPattern]⟩
  case significand => exact ⟨_, rfl, by simp [significand, parts, Response.ofPattern]⟩
  case sincos =>
    simp only [callUnary, sincos, operationPattern, if_pos any]
    exact ⟨_, rfl, Flags.none_union .none⟩
  case lgamma_r =>
    simp only [callUnary, lgammaWithSign, operationPattern, if_pos any]
    exact ⟨_, rfl, rfl⟩

theorem extremum_flags (larger : Bool) (first second : ℕ) :
    (extremum larger format first second).flags = .none := by
  unfold extremum
  split_ifs <;> rfl

theorem callBinary_isQuiet {routine : Routine} (inputs : routine.shape.inputs = [.float, .float])
    (none : operation? routine = none) (mode : Mode) {first second : ℕ}
    (any : anyNaN format [first, second] = true) :
    IsQuiet (callBinary routine format mode first second) := by
  have nan : format.isNaN first = true ∨ format.isNaN second = true := by
    simpa [anyNaN] using any
  cases routine <;> try first | exact absurd inputs (by decide) | exact absurd none (by decide)
  case copysign => exact ⟨_, rfl, rfl⟩
  case fmax | fmin => exact ⟨_, rfl, extremum_flags _ _ _⟩
  case fdim => exact ⟨_, by rw [callBinary, fdim, if_pos nan], rfl⟩
  case nextafter => exact ⟨_, rfl, by rw [nextafter, if_pos nan]; rfl⟩
  case scalb => exact ⟨_, by rw [callBinary, scalb]; exact if_pos nan, rfl⟩
  case remquo => exact ⟨_, by rw [callBinary, remquo, if_pos any], rfl⟩
  case hypot =>
    rw [callBinary, hypot]
    split
    · exact ⟨_, rfl, rfl⟩
    · exact operation_isQuiet .hypot mode any
  case pow =>
    rw [callBinary, pow]
    split
    · exact ⟨_, rfl, rfl⟩
    · exact operation_isQuiet .pow mode any

/-- A NaN among the operands leads to no exception, except in the routine that gives its exponent as
an integer. -/
theorem call_isQuiet {routine : Routine} {operands : List SlotValue}
    (kinds : operands.map SlotValue.slot = routine.shape.inputs) (other : routine ≠ .ilogb)
    (mode : Mode) (any : anyNaN format (patternsOf operands) = true) :
    IsQuiet (call routine format mode operands) := by
  cases operates : operation? routine with
  | some operator =>
    simp only [call, operates]
    exact operation_isQuiet operator mode any
  | none =>
    rcases Routine.operands_cases kinds with ⟨pattern, rfl⟩ | ⟨first, second, rfl⟩ |
      ⟨first, second, third, rfl⟩ | ⟨pattern, power, rfl⟩
    · have nan : format.isNaN pattern = true := by simpa [anyNaN, patternsOf] using any
      simp only [call, operates]
      exact callUnary_isQuiet kinds.symm operates other mode nan
    · simp only [call, operates]
      exact callBinary_isQuiet kinds.symm operates mode any
    · have nan : anyNaN format [first, second, third] = true := any
      simp only [call, operates, fma, operationPattern, if_pos nan]
      exact ⟨_, rfl, rfl⟩
    · have nan : format.isNaN pattern = true := by simpa [anyNaN, patternsOf] using any
      simp only [call, operates, ldexp, parts?_of_isNaN nan]
      exact ⟨_, rfl, rfl⟩

end Reference

/-! ## The library -/

namespace LibraryKind

variable {routine : Routine} {operands : List SlotValue}

/-- A library has routines for the formats of machine types alone, whose precision is small. -/
theorem precise_of_lookup (kind : LibraryKind)
    (provided : kind.lookup routine format = .ok ()) : format.precision < 2 ^ 15 := by
  have stored : format.carrier?.isSome = true := by
    by_contra absent
    cases kind with
    | reference =>
      rw [lookup, Reference.lookup, if_neg absent] at provided
      exact absurd provided nofun
    | native fused =>
      rw [lookup, Native.lookup, if_pos (by simpa using absent)] at provided
      exact absurd provided nofun
  obtain ⟨carrier, stored⟩ := Option.isSome_iff_exists.mp stored
  obtain rfl := Format.format_of_carrier? stored
  exact carrier.precise

/-- A call gives the outputs that a pure function of the mode gives, and its exceptions go where
those of the library go. A call that stops does nothing to the stack. -/
theorem on_perform (kind : LibraryKind) (precise : format.precision < 2 ^ 15) (routine : Routine)
    (operands : List SlotValue) (stack : EnvironmentStack) :
    (kind.perform routine format operands).on stack =
      match kind.call routine format stack.current.mode operands with
      | .ok response => (.ok response.outputs, kind.raiseIn stack response.flags)
      | .error fault => (.error fault, stack) := by
  unfold perform call
  rw [Action.on_bind, Action.on_ofExcept]
  cases kind.checkCount routine operands.length with
  | error fault => rfl
  | ok _ =>
    cases kind with
    | reference =>
      refine (Reference.perform_delivers precise routine operands stack).trans ?_
      show stack.receive (Reference.call routine format stack.current.mode operands) = _
      dsimp only [Except.bind, bind]
      cases Reference.call routine format stack.current.mode operands <;> rfl
    | native fused =>
      dsimp only
      rw [Action.on_bind, Action.on_ofExcept]
      dsimp only [Except.bind, bind]
      cases Native.call routine format operands <;> rfl

theorem call_reference (kinds : operands.map SlotValue.slot = routine.shape.inputs) (mode : Mode) :
    reference.call routine format mode operands = Reference.call routine format mode operands := by
  rw [call, checkCount_of_kinds reference kinds]
  rfl

/-- **A reference call is a pure function with exceptions that stay raised.** Its outputs, and the
exceptions that are added to those of the innermost environment, are what the operands and the mode
of that environment give. Everything else about the environments stays as it is, and if the call
stops, all of it. A NaN among the operands raises nothing, except in `ilogb`. -/
theorem perform_pure {carrier : Carrier} (stored : format.carrier? = some carrier)
    (fills : Fills format routine.shape.inputs operands) :
    (∀ (stack : EnvironmentStack) (mode : Mode) (flags : Flags) (below : List Environment),
      stack.environments = ⟨mode, flags⟩ :: below →
        match reference.call routine format mode operands with
        | .ok response => ∃ after,
            (reference.perform routine format operands).on stack =
              (.ok response.outputs, after) ∧
            after.environments = ⟨mode, flags.union response.flags⟩ :: below ∧
            after.scopes = stack.scopes
        | .error fault =>
            (reference.perform routine format operands).on stack = (.error fault, stack)) ∧
    (routine ≠ .ilogb → Reference.anyNaN format (Reference.patternsOf operands) = true →
      ∀ mode, ∃ response, reference.call routine format mode operands = .ok response ∧
        response.flags = .none) := by
  obtain rfl := Format.format_of_carrier? stored
  constructor
  · intro stack mode flags below shape
    have delivered := on_perform reference carrier.precise routine operands stack
    rw [stack.current_of_environments shape] at delivered
    dsimp only at delivered
    cases called : reference.call routine carrier.format mode operands with
    | error fault =>
      rw [called] at delivered
      exact delivered
    | ok response =>
      rw [called] at delivered
      exact ⟨_, delivered, stack.environments_raise response.flags shape, rfl⟩
  · intro other nan mode
    rw [call_reference fills.kinds]
    exact Reference.call_isQuiet fills.kinds other mode nan

/-- Half of the least magnitude, toward negative infinity, on top of two environments and with an
exception that was there before; and the sine of a NaN. -/
theorem perform_pure_ldexp :
    Format.half.carrier? = some .half ∧
      Fills .half (Routine.shape .ldexp).inputs [.float 1, .int (-1)] ∧
      (∃ after, (reference.perform .ldexp .half [.float 1, .int (-1)]).on
          (({} : EnvironmentStack).push ⟨.down, { invalid := true }⟩) = (.ok [.float 0], after) ∧
        after.environments =
          [⟨.down, { invalid := true, underflow := true, inexact := true }⟩, {}] ∧
        after.scopes = []) ∧
      Fills .half (Routine.shape .sin).inputs [.float 0x7e00] ∧
      ∀ mode, ∃ response, reference.call .sin .half mode [.float 0x7e00] = .ok response ∧
        response.flags = .none := by
  have stored : Format.half.carrier? = some .half := by decide
  have scaled : Fills .half (Routine.shape .ldexp).inputs [.float 1, .int (-1)] :=
    ⟨rfl, by simp [SlotValue.Fits]; decide⟩
  have sine : Fills .half (Routine.shape .sin).inputs [.float 0x7e00] :=
    ⟨rfl, by simp [SlotValue.Fits]; decide⟩
  refine ⟨stored, scaled, ?_, sine, ?_⟩
  · exact (perform_pure stored scaled).1
      (({} : EnvironmentStack).push ⟨.down, { invalid := true }⟩) _ _ _ rfl
  · exact (perform_pure stored sine).2 (by decide) rfl

end LibraryKind

end LibmAudit
