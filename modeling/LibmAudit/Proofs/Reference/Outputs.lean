/-
**Outputs of the reference library.**

A routine gives outputs of the kinds of its shape, and their patterns fit the format.

* `Fills`: values of the kinds of slots, with patterns that fit a format.
* `Format.round_lt`, `Operation.finish_lt`: what a rounding gives fits.
* `Reference.callUnary_fills`, `callBinary_fills`: routines of one and of two float operands.
* `Reference.call_fills`: all routines.
-/

import LibmAudit.Library.Choice
import LibmAudit.Proofs.Check.Conversion
import LibmAudit.Proofs.Multiprecision.Modes

namespace LibmAudit

attribute [local instance (high)] instPowNat

variable {format : Format}

/-- The kind of an operand or an output. -/
def SlotValue.slot : SlotValue → Slot
  | .float _ => .float
  | .int _ => .int

/-- A pattern fits the format; integers are of any size. -/
def SlotValue.Fits (format : Format) : SlotValue → Prop
  | .float pattern => pattern < 2 ^ format.totalBits
  | .int _ => True

/-- Values of the kinds of slots, with patterns that fit the format. -/
structure Fills (format : Format) (slots : List Slot) (values : List SlotValue) : Prop where
  kinds : values.map SlotValue.slot = slots
  fits : ∀ value ∈ values, value.Fits format

theorem Fills.float_lt {slots : List Slot} {values : List SlotValue} {pattern : ℕ}
    (fills : Fills format slots values) (member : .float pattern ∈ values) :
    pattern < 2 ^ format.totalBits := fills.fits _ member

/-- Operands of the kinds of a routine are as many as it takes. -/
theorem LibraryKind.checkCount_of_kinds {routine : Routine} {operands : List SlotValue}
    (kind : LibraryKind)
    (kinds : operands.map SlotValue.slot = routine.shape.inputs) :
    kind.checkCount routine operands.length = .ok () := by
  have length : operands.length = routine.shape.inputs.length := by
    rw [← kinds, List.length_map]
  have names : (kind.operandNames routine).length = routine.shape.inputs.length := by
    cases kind <;> cases routine <;> rfl
  have fits : countProblem? (kind.operandNames routine) operands.length = none := by
    rw [countProblem?, if_neg (by omega), if_neg (by omega)]
  rw [checkCount, fits]
  cases kind.handsOn routine <;> rfl

/-- A call gives values of the kinds of slots, if it gives something. -/
def CallFills (format : Format) (slots : List Slot) (call : Except Fault Response) : Prop :=
  ∀ response, call = .ok response → Fills format slots response.outputs

theorem CallFills.ok {slots : List Slot} {response : Response}
    (fills : Fills format slots response.outputs) : CallFills format slots (.ok response) := by
  rintro _ ⟨⟩
  exact fills

theorem CallFills.error {slots : List Slot} (fault : Fault) :
    CallFills format slots (.error fault) := nofun

/-! ## Roundings -/

theorem Format.magnitudeField_lt_totalBits (pattern : ℤ) :
    format.magnitudeField pattern < 2 ^ format.totalBits := by
  have := format.magnitudeField_lt pattern
  rw [format.two_pow_totalBits]
  omega

theorem Format.round_lt {mode : Mode} {negative : Bool} {significand : ℕ} {exponent : ℤ}
    {sticky : Bool} {rounded : Rounded}
    (ok : format.round mode negative significand exponent sticky = .ok rounded) :
    rounded.pattern < 2 ^ format.totalBits := by
  unfold round at ok
  by_cases zero : significand = 0
  · rw [if_pos zero] at ok
    split at ok
    · exact absurd ok nofun
    · rw [← Except.ok.inj ok]
      exact format.zero_lt negative
  · rw [if_neg zero] at ok
    dsimp only at ok
    obtain ⟨x, given⟩ := exists_standsFor significand exponent sticky
    have fits := (format.roundReal_isRounding mode negative (given.pos zero)).fits
    by_cases room : 0 < format.placeFor significand exponent - exponent
    · rw [if_pos room, roundAt_eq mode negative given zero (Or.inl room)] at ok
      obtain ⟨-, -, rfl⟩ := map_eq_ok_iff.mp ok
      exact fits
    · rw [if_neg room] at ok
      cases sticky with
      | true => exact absurd ok nofun
      | false =>
        rw [if_neg Bool.false_ne_true, roundAt_eq mode negative given zero (Or.inr rfl)] at ok
        rwa [← Except.ok.inj ok]

theorem Number.toPattern_lt {mode : Mode} {number : Number} {sticky : Bool} {precision : ℕ}
    {rounded : Rounded} (ok : number.toPattern format mode sticky precision = .ok rounded) :
    rounded.pattern < 2 ^ format.totalBits := by
  cases number with
  | nan =>
    rw [← Except.ok.inj ok]
    exact format.quietNaN_lt false
  | infinity negative =>
    rw [← Except.ok.inj ok]
    exact format.infinity_lt negative
  | zero negative =>
    unfold toPattern at ok
    dsimp only at ok
    split at ok
    · exact absurd ok nofun
    · rw [← Except.ok.inj ok]
      exact format.zero_lt negative
  | finite value => exact Format.round_lt ok

theorem Operation.finish_lt {mode : Mode} {result : Evaluation} {rounded : Rounded}
    (ok : finish format mode result = .ok rounded) : rounded.pattern < 2 ^ format.totalBits := by
  rw [finish_eq_map] at ok
  obtain ⟨other, given, rfl⟩ := map_eq_ok_iff.mp ok
  exact (Number.toPattern_lt given : other.pattern < _)

theorem Operation.evaluateInto_lt {operation : Operation} {mode : Mode} {signedByMode : Bool}
    {patterns : List ℕ} {rounded : Rounded}
    (ok : operation.evaluateInto format mode signedByMode patterns = .ok rounded) :
    rounded.pattern < 2 ^ format.totalBits := by
  obtain ⟨first, -, rest⟩ := bind_eq_ok_iff.mp ok
  dsimp only at rest
  split at rest
  · obtain ⟨again, -, finished⟩ := bind_eq_ok_iff.mp rest
    exact finish_lt finished
  · exact finish_lt rest

/-! ## Shapes -/

theorem fills_float {pattern : ℕ} (fits : pattern < 2 ^ format.totalBits) :
    Fills format [.float] [.float pattern] :=
  ⟨rfl, List.forall_mem_singleton.mpr fits⟩

theorem fills_pair {first second : ℕ} (fits : first < 2 ^ format.totalBits)
    (fits' : second < 2 ^ format.totalBits) :
    Fills format [.float, .float] [.float first, .float second] :=
  ⟨rfl, List.forall_mem_cons.mpr ⟨fits, List.forall_mem_singleton.mpr fits'⟩⟩

theorem fills_float_int {pattern : ℕ} {value : ℤ} (fits : pattern < 2 ^ format.totalBits) :
    Fills format [.float, .int] [.float pattern, .int value] :=
  ⟨rfl, List.forall_mem_cons.mpr ⟨fits, List.forall_mem_singleton.mpr trivial⟩⟩

theorem fills_int {value : ℤ} : Fills format [.int] [.int value] :=
  ⟨rfl, List.forall_mem_singleton.mpr trivial⟩

/-- Routines of three float operands or of a float operand and an integer have one float output. -/
theorem Shape.outputs_of_inputs {shape : Shape}
    (kinds : [.float, .float, .float] = shape.inputs ∨ [.float, .int] = shape.inputs) :
    shape.outputs = [.float] := by
  cases shape <;> first | rfl | exact absurd kinds (by decide)

namespace Reference

variable {mode : Mode} {pattern first second : ℕ} {response : Response}

/-! ## Routines on patterns -/

theorem nan_fills (flags : Flags) : Fills format [.float] (nan format flags).outputs :=
  fills_float (format.quietNaN_lt false)

theorem roundExact_lt {negative : Bool} {significand : ℕ} {exponent : ℤ} :
    (format.roundExact .nearestEven negative significand exponent).pattern <
      2 ^ format.totalBits :=
  (format.roundExact_isRounding .nearestEven negative significand exponent).fits

theorem copysign_fills : Fills format [.float] (copysign format first second).outputs := by
  refine fills_float ?_
  rw [Nat.add_comm]
  exact format.signBit_add_lt _ (format.magnitudeField_lt first)

theorem extremum_fills (larger : Bool) (fits : first < 2 ^ format.totalBits)
    (fits' : second < 2 ^ format.totalBits) :
    Fills format [.float] (extremum larger format first second).outputs := by
  unfold extremum
  split
  · exact nan_fills _
  split
  · exact fills_float fits'
  split
  · exact fills_float fits
  · dsimp only
    refine fills_float ?_
    split <;> split <;> assumption

theorem nextafter_fills (fits : first < 2 ^ format.totalBits)
    (fits' : second < 2 ^ format.totalBits) :
    Fills format [.float] (nextafter format first second).outputs := by
  unfold nextafter
  split
  · exact nan_fills _
  · next numbers =>
    rw [not_or, Bool.not_eq_true, Bool.not_eq_true] at numbers
    dsimp only
    split
    · exact fills_float fits'
    · refine fills_float (format.ofOrdinal_lt ?_)
      have bound := format.natAbs_toOrdinal_le fits numbers.1
      have bound' := format.natAbs_toOrdinal_le fits' numbers.2
      have small := format.infinityOrdinal_lt
      split <;> omega

theorem integral_lt (mode : Mode) (fits : pattern < 2 ^ format.totalBits) :
    (integral format mode pattern).1 < 2 ^ format.totalBits := by
  unfold integral
  split
  · exact fits
  · split
    · exact fits
    · exact roundExact_lt

theorem modf_fills (fits : pattern < 2 ^ format.totalBits) :
    Fills format [.float, .float] (modf format pattern).outputs := by
  unfold modf
  dsimp only
  split
  · exact fills_pair (format.quietNaN_lt false) (format.quietNaN_lt false)
  · refine fills_pair ?_ (integral_lt .towardZero fits)
    split
    · exact format.zero_lt _
    · split
      · exact format.zero_lt _
      · exact roundExact_lt

theorem frexp_fills (fits : pattern < 2 ^ format.totalBits) :
    Fills format [.float, .int] (frexp format pattern).outputs := by
  unfold frexp
  split
  · exact fills_float_int fits
  · exact fills_float_int roundExact_lt

theorem ilogb_fills : Fills format [.int] (ilogb format pattern).outputs := by
  unfold ilogb
  split <;> exact fills_int

theorem logb_fills : Fills format [.float] (logb format pattern).outputs := by
  unfold logb
  split
  · exact fills_float (roundInteger_lt format _)
  · split
    · exact nan_fills _
    · split <;> exact fills_float (format.infinity_lt _)

theorem significand_fills (fits : pattern < 2 ^ format.totalBits) :
    Fills format [.float] (significand format pattern).outputs := by
  unfold significand
  split
  · exact fills_float fits
  · exact fills_float roundExact_lt

/-! ## Routines that may fail -/

theorem ofPattern_fills (fits : pattern < 2 ^ format.totalBits) {flags : Flags} :
    CallFills format [.float] (.ok (.ofPattern pattern flags)) :=
  .ok (fills_float fits)

theorem ofRounded_fills {run : Except Fault Rounded}
    (fits : ∀ rounded, run = .ok rounded → rounded.pattern < 2 ^ format.totalBits) :
    CallFills format [.float] (run.map .ofRounded) := by
  intro response ok
  obtain ⟨rounded, given, rfl⟩ := map_eq_ok_iff.mp ok
  exact fills_float (fits rounded given)

theorem operationPattern_lt {operator : Operation} {signedByMode : Bool} {patterns : List ℕ}
    {rounded : Rounded}
    (ok : operationPattern operator format mode signedByMode patterns = .ok rounded) :
    rounded.pattern < 2 ^ format.totalBits := by
  unfold operationPattern at ok
  split at ok
  · rw [← Except.ok.inj ok]
    exact format.quietNaN_lt false
  · exact Operation.evaluateInto_lt ok

theorem operation_fills (operator : Operation) (patterns : List ℕ) :
    CallFills format [.float] (operation operator format mode patterns) :=
  ofRounded_fills fun _ => operationPattern_lt

theorem fma_fills (patterns : List ℕ) : CallFills format [.float] (fma format mode patterns) :=
  ofRounded_fills fun _ => operationPattern_lt

theorem fdim_fills : CallFills format [.float] (fdim format mode first second) := by
  unfold fdim
  split
  · exact ofPattern_fills (format.quietNaN_lt false)
  split
  · exact operation_fills _ _
  · exact ofPattern_fills (format.zero_lt false)

theorem hypot_fills : CallFills format [.float] (hypot format mode first second) := by
  unfold hypot
  split
  · exact ofPattern_fills (format.infinity_lt false)
  · exact operation_fills _ _

theorem pow_fills : CallFills format [.float] (pow format mode first second) := by
  unfold pow
  split
  · exact ofPattern_fills (roundInteger_lt format 1)
  · exact operation_fills _ _

theorem ldexp_fills (fits : pattern < 2 ^ format.totalBits) (power : ℤ) :
    CallFills format [.float] (ldexp format mode pattern power) := by
  unfold ldexp
  split
  · exact ofPattern_fills fits
  · exact ofRounded_fills fun _ => Format.round_lt

theorem scalb_fills (fits : first < 2 ^ format.totalBits) :
    CallFills format [.float] (scalb format mode first second) := by
  unfold scalb
  dsimp only
  split_ifs
  · exact ofPattern_fills (format.quietNaN_lt false)
  · exact ofPattern_fills (format.quietNaN_lt false)
  · exact ofPattern_fills (format.zero_lt _)
  · exact ofPattern_fills (format.quietNaN_lt false)
  · exact ofPattern_fills (format.infinity_lt _)
  · split
    · exact ofPattern_fills (format.quietNaN_lt false)
    · exact ldexp_fills fits _

theorem remquo_fills : CallFills format [.float, .int] (remquo format first second) := by
  intro response ok
  unfold remquo at ok
  split at ok
  · rw [← Except.ok.inj ok]
    exact fills_float_int (format.quietNaN_lt false)
  · obtain ⟨dividend, -, ok⟩ := bind_eq_ok_iff.mp ok
    obtain ⟨divisor, -, ok⟩ := bind_eq_ok_iff.mp ok
    dsimp only at ok
    split at ok
    · rw [← Except.ok.inj ok]
      exact fills_float_int (format.quietNaN_lt false)
    · obtain ⟨rounded, given, ok⟩ := bind_eq_ok_iff.mp ok
      rw [← Except.ok.inj ok]
      exact fills_float_int (Number.toPattern_lt given)

theorem sincos_fills : CallFills format [.float, .float] (sincos format mode pattern) := by
  intro response ok
  obtain ⟨sine, given, ok⟩ := bind_eq_ok_iff.mp ok
  obtain ⟨cosine, given', ok⟩ := bind_eq_ok_iff.mp ok
  rw [← Except.ok.inj ok]
  exact fills_pair (operationPattern_lt given) (operationPattern_lt given')

theorem lgammaWithSign_fills :
    CallFills format [.float, .int] (lgammaWithSign format mode pattern) := by
  intro response ok
  obtain ⟨rounded, given, ok⟩ := bind_eq_ok_iff.mp ok
  rw [← Except.ok.inj ok]
  exact fills_float_int (operationPattern_lt given)

/-! ## All routines -/

variable {routine : Routine}

/-- Routines of one float operand. -/
theorem callUnary_fills (fits : pattern < 2 ^ format.totalBits) :
    CallFills format routine.shape.outputs (callUnary routine format mode pattern) := by
  unfold callUnary
  split
  -- The magnitude, and what is rounded to an integer.
  · exact ofPattern_fills (Format.magnitudeField_lt_totalBits _)
  · exact ofPattern_fills (integral_lt _ fits)
  · exact ofPattern_fills (integral_lt _ fits)
  · exact ofPattern_fills (integral_lt _ fits)
  · exact ofPattern_fills (integral_lt _ fits)
  · exact ofPattern_fills (integral_lt _ fits)
  · exact ofPattern_fills (integral_lt _ fits)
  · exact .ok (modf_fills fits)
  · exact .ok (frexp_fills fits)
  · exact .ok ilogb_fills
  · exact .ok logb_fills
  · exact .ok (significand_fills fits)
  · exact sincos_fills
  · exact lgammaWithSign_fills
  · exact .error _

/-- Routines of two float operands. -/
theorem callBinary_fills (fits : first < 2 ^ format.totalBits)
    (fits' : second < 2 ^ format.totalBits) :
    CallFills format routine.shape.outputs (callBinary routine format mode first second) := by
  unfold callBinary
  split
  · exact .ok copysign_fills
  · exact .ok (extremum_fills true fits fits')
  · exact .ok (extremum_fills false fits fits')
  · exact fdim_fills
  · exact .ok (nextafter_fills fits fits')
  · exact scalb_fills fits
  · exact remquo_fills
  · exact hypot_fills
  · exact pow_fills
  · exact .error _

/-- An operation is all there is to a routine only if it has one float output. -/
theorem outputs_of_operation? (operates : (operation? routine).isSome = true) :
    routine.shape.outputs = [.float] := by
  cases routine <;> first | rfl | exact absurd operates Bool.false_ne_true

/-- A routine that gives something for operands of its shape gives outputs of its shape, with
patterns that fit the format. -/
theorem call_fills {operands : List SlotValue}
    (given : Fills format routine.shape.inputs operands) :
    CallFills format routine.shape.outputs (call routine format mode operands) := by
  have kinds := given.kinds
  unfold call
  split
  · next operates =>
    rw [outputs_of_operation? (Option.isSome_of_eq_some operates)]
    exact operation_fills _ _
  · exact callUnary_fills (given.float_lt (by simp))
  · exact callBinary_fills (given.float_lt (by simp)) (given.float_lt (by simp))
  · rw [Shape.outputs_of_inputs (Or.inl kinds)]
    exact fma_fills _
  · rw [Shape.outputs_of_inputs (Or.inr kinds)]
    exact ldexp_fills (given.float_lt (by simp)) _
  · exact .error _

end Reference

end LibmAudit
