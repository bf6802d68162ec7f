/-
**What may stop a reference call.**

A call on operands of its routine, in the format of a machine type, gives a response or stops with
the fault of a value: a result that was cut to zero cannot be rounded. No number on the way is too
long to be stored.

* `Fault.IsTold`, `EndsTold`: faults of a format or a value.
* `Outcome.round_isBounded`: a multiprecision result has few digits above the end of the exponent
  range, whatever the mode.
* `Reference.call_endsTold`: the calls.
-/

import LibmAudit.Proofs.Reference.Exactness
import LibmAudit.Proofs.Native.Scaling

namespace LibmAudit

attribute [local instance (high)] instPowNat

/-! ## Faults that are told -/

/-- A fault of a format or of a value. -/
def Fault.IsTold (fault : Fault) : Prop := fault.category = .format ∨ fault.category = .value

/-- A result, or a fault of a format or of a value. -/
def EndsTold {α : Type} (result : Except Fault α) : Prop :=
  ∀ fault, result = .error fault → fault.IsTold

namespace EndsTold

variable {α β : Type} {given : Except Fault α} {fault : Fault}

theorem ok (value : α) : EndsTold (.ok value : Except Fault α) := nofun

theorem error (told : fault.IsTold) : EndsTold (.error fault : Except Fault α) := by
  rintro _ ⟨⟩
  exact told

instance decidable : (given : Except Fault α) → Decidable (EndsTold given)
  | .ok value => isTrue (.ok value)
  | .error fault =>
    decidable_of_iff (fault.category = .format ∨ fault.category = .value)
      ⟨.error, fun told => told fault rfl⟩

theorem refuse (told : fault.IsTold) : EndsTold (LibmAudit.refuse fault : Except Fault α) := by
  unfold LibmAudit.refuse
  split
  · exact .error told
  · exact .error (Or.inr rfl)

theorem bind {next : α → Except Fault β} (first : EndsTold given)
    (second : ∀ value, given = .ok value → EndsTold (next value)) : EndsTold (given >>= next) := by
  cases given with
  | error fault => exact .error (first fault rfl)
  | ok value => exact second value rfl

theorem map (first : EndsTold given) (function : α → β) : EndsTold (given.map function) := by
  cases given with
  | error fault => exact .error (first fault rfl)
  | ok value => exact .ok (function value)

theorem mapM {function : α → Except Fault β} {list : List α}
    (each : ∀ item ∈ list, EndsTold (function item)) : EndsTold (list.mapM function) := by
  induction list with
  | nil => exact .ok []
  | cons item rest ih =>
    rw [List.forall_mem_cons] at each
    rw [List.mapM_cons]
    exact .bind each.1 fun first _ => .bind (ih each.2) fun others _ => .ok _

end EndsTold

/-! ## Roundings -/

variable {format : Format}

namespace Format

/-- Few bits are rounded off a magnitude of few bits that is not too small. -/
theorem placeFor_sub_lt {significand : ℕ} {exponent : ℤ}
    (short : bitLength significand ≤ storageLimit / 2)
    (above : -(storageLimit / 2 : ℕ) ≤ exponent) :
    format.placeFor significand exponent - exponent < storageLimit := by
  have range := format.one_le_emax
  have limit := storageLimit_eq
  unfold placeFor leadingExponent emin
  omega

theorem round_endsTold (mode : Mode) (negative : Bool) {significand : ℕ} {exponent : ℤ}
    (sticky : Bool) (short : format.placeFor significand exponent - exponent < storageLimit) :
    EndsTold (format.round mode negative significand exponent sticky) := by
  unfold round
  dsimp only
  split
  · split
    · exact .error (Or.inr rfl)
    · exact .ok _
  split
  · rw [checkLength_eq_ok (by omega)]
    exact .ok _
  split
  · exact .refuse (Or.inr rfl)
  · exact .ok _

end Format

/-- A number of few digits above the end of the exponent range. -/
structure IsBounded (precision : ℕ) (value : Dyadic) : Prop where
  short : bitLength value.significand ≤ precision + 1
  inRange : -exponentLimit ≤ value.top

namespace Outcome

variable {precision : ℕ} {value : Dyadic}

theorem overflow_isBounded (positive : 0 < precision) {mode : Mode} {negative : Bool}
    (finite : (overflow precision mode negative).number = .finite value) :
    IsBounded precision value := by
  unfold overflow at finite
  dsimp only at finite
  split at finite
  · exact absurd finite nofun
  · obtain rfl := Number.finite.inj finite
    have greatest := isCutNumber_greatest positive negative
    exact ⟨greatest.short.trans (Nat.le_succ _), greatest.inRange⟩

theorem underflow_isBounded {mode : Mode} {negative nearLeast : Bool}
    (finite : (underflow mode negative nearLeast).number = .finite value) :
    IsBounded precision value := by
  unfold underflow at finite
  dsimp only at finite
  split_ifs at finite
  obtain rfl := Number.finite.inj finite
  have one : bitLength 1 = 1 := rfl
  refine ⟨?_, ?_⟩
  · dsimp only
    omega
  · unfold Dyadic.top exponentLimit
    dsimp only
    omega

theorem roundTruncation_isBounded (positive : 0 < precision) {mode : Mode} {negative : Bool}
    {truncation : Truncation}
    (finite : (roundTruncation precision mode negative truncation).number = .finite value) :
    IsBounded precision value := by
  unfold roundTruncation at finite
  extract_lets excess kept remainder inexact away rounded error at finite
  split at finite
  · exact overflow_isBounded positive finite
  split at finite
  · exact underflow_isBounded finite
  · next above =>
    obtain rfl := Number.finite.inj finite
    refine ⟨?_, by omega⟩
    -- The digits that are kept are one more at most, after a carry.
    have short : kept < 2 ^ precision :=
      bitLength_le_iff.mp (truncation.bitLength_cutTo_le precision negative)
    have carried : rounded.significand ≤ kept + 1 := by
      dsimp only [rounded]
      split
      · exact le_rfl
      · exact Nat.le_succ kept
    rw [bitLength_le_iff]
    calc rounded.significand ≤ kept + 1 := carried
      _ ≤ 2 ^ precision := short
      _ < 2 ^ (precision + 1) := Nat.pow_lt_pow_succ one_lt_two

/-- A multiprecision result has few digits above the end of the exponent range. -/
theorem round_isBounded (positive : 0 < precision) {mode : Mode} {outcome : Outcome}
    (finite : (outcome.round precision mode).number = .finite value) :
    IsBounded precision value := by
  cases outcome with
  | nan | infinity | zero | cancelled => exact absurd finite nofun
  | vast => exact overflow_isBounded positive finite
  | minute => exact underflow_isBounded finite
  | magnitude => exact roundTruncation_isBounded positive finite

end Outcome

/-- A bounded number is rounded into the format, or its rounding is refused. -/
theorem Number.toPattern_endsTold (precise : format.precision < 2 ^ 15) (mode : Mode)
    {number : Number}
    (bounded : ∀ value, number = .finite value → IsBounded (format.precision + 2) value)
    (sticky : Bool) (precision : ℕ) :
    EndsTold (number.toPattern format mode sticky precision) := by
  cases number with
  | nan => exact .ok _
  | infinity => exact .ok _
  | zero =>
    unfold toPattern
    dsimp only
    split
    · exact .error (Or.inr rfl)
    · exact .ok _
  | finite value =>
    obtain ⟨short, inRange⟩ := bounded value rfl
    unfold toPattern
    dsimp only
    by_cases nonzero : value.significand = 0
    · have zero : (padded format value).significand = 0 := by
        by_contra other
        rw [← ne_eq, padded, Dyadic.significand_ne_zero_iff, widened_magnitude,
          Dyadic.reduced_magnitude, ← Dyadic.significand_ne_zero_iff] at other
        exact other nonzero
      unfold Format.round
      rw [if_pos zero]
      split
      · exact .error (Or.inr rfl)
      · exact .ok _
    · have reduced : value.reduced.significand ≠ 0 := by
        rwa [Dyadic.significand_ne_zero_iff, Dyadic.reduced_magnitude,
          ← Dyadic.significand_ne_zero_iff]
      have least : bitLength value.reduced.significand ≤ format.precision + 3 := by
        rw [bitLength_le_iff]
        exact (Dyadic.significand_le_of_odd (Dyadic.reduced_odd nonzero)
          value.reduced_magnitude).trans_lt (bitLength_le_iff.mp short)
      have length := bitLength_widened format reduced
      have top : (padded format value).top = value.top :=
        (widened_top format reduced).trans (Dyadic.reduced_top nonzero)
      unfold Dyadic.top exponentLimit at inRange
      unfold Dyadic.top at top
      unfold padded at top ⊢
      have limit := storageLimit_eq
      exact format.round_endsTold mode _ sticky (Format.placeFor_sub_lt (by omega) (by omega))

namespace Operation

variable {operation : Operation} {patterns : List ℕ}

theorem finish_endsTold (precise : format.precision < 2 ^ 15) (mode : Mode) {result : Evaluation}
    (bounded : ∀ value, result.number = .finite value → IsBounded (format.precision + 2) value) :
    EndsTold (finish format mode result) := by
  rw [finish_eq_map]
  exact (Number.toPattern_endsTold precise mode bounded _ _).map _

/-- An operation on as many patterns of the format as it takes. -/
theorem evaluateInto_endsTold (ranged : format.emax + format.fractionBits < exponentLimit)
    (precise : format.precision < 2 ^ 15)
    (fits : ∀ pattern ∈ patterns, pattern < 2 ^ format.totalBits)
    (count : patterns.length = operation.arity) (mode : Mode) (signedByMode : Bool) :
    EndsTold (operation.evaluateInto format mode signedByMode patterns) := by
  have finishes (result : Evaluation) (outcome : Outcome) (mode' : Mode) (same : result.number =
      (outcome.round (format.precision + 2) mode').number) :
      EndsTold (finish format mode result) :=
    finish_endsTold precise mode fun value finite =>
      Outcome.round_isBounded (Nat.succ_pos _) (same.symm.trans finite)
  unfold evaluateInto
  refine .bind ?_ fun result evaluated => ?_
  · rw [evaluateOn_of_fits ranged fits count]
    exact .ok _
  · have first := congrArg Evaluation.number (evaluateOn_eq_ok evaluated)
    dsimp only
    split
    · rw [evaluateOn_of_fits ranged fits count]
      exact finishes _ _ mode rfl
    · exact finishes _ _ _ first

end Operation

/-! ## Routines -/

namespace Reference

variable {operator : Operation} {mode : Mode} {patterns : List ℕ} {pattern first second : ℕ}
  (ranged : format.emax + format.fractionBits < exponentLimit)
  (precise : format.precision < 2 ^ 15)

include ranged precise

theorem operationPattern_endsTold (signedByMode : Bool)
    (fits : ∀ pattern ∈ patterns, pattern < 2 ^ format.totalBits)
    (count : patterns.length = operator.arity) :
    EndsTold (operationPattern operator format mode signedByMode patterns) := by
  unfold operationPattern
  split
  · exact .ok _
  · exact Operation.evaluateInto_endsTold ranged precise fits count mode signedByMode

theorem operation_endsTold (fits : ∀ pattern ∈ patterns, pattern < 2 ^ format.totalBits)
    (count : patterns.length = operator.arity) :
    EndsTold (operation operator format mode patterns) :=
  (operationPattern_endsTold ranged precise false fits count).map _

theorem sincos_endsTold (fits : pattern < 2 ^ format.totalBits) :
    EndsTold (sincos format mode pattern) := by
  have fits : ∀ pattern' ∈ [pattern], pattern' < 2 ^ format.totalBits := by simpa using fits
  refine .bind (operationPattern_endsTold ranged precise false fits rfl) fun sine _ => ?_
  exact .bind (operationPattern_endsTold ranged precise false fits rfl) fun cosine _ => .ok _

theorem lgammaWithSign_endsTold (fits : pattern < 2 ^ format.totalBits) :
    EndsTold (lgammaWithSign format mode pattern) :=
  .bind (operationPattern_endsTold ranged precise false (by simpa using fits) rfl)
    fun rounded _ => .ok _

theorem remquo_endsTold (fits : first < 2 ^ format.totalBits)
    (fits' : second < 2 ^ format.totalBits) : EndsTold (remquo format first second) := by
  unfold remquo
  split
  · exact .ok _
  · rw [Number.ofPattern_of_fits ranged fits, Number.ofPattern_of_fits ranged fits']
    dsimp only [bind, Except.bind]
    split
    · exact .ok _
    · exact .bind (Number.toPattern_endsTold precise _
        (fun value => Outcome.round_isBounded (Nat.succ_pos _)) _ _) fun rounded _ => .ok _

/-- A value is scaled by a power that is not far below zero. -/
theorem ldexp_endsTold (fits : pattern < 2 ^ format.totalBits) {power : ℤ}
    (above : -2 ^ (37 : ℕ) ≤ power) : EndsTold (ldexp format mode pattern power) := by
  unfold ldexp
  cases class_of_fits fits with
  | nan _ _ none | infinite _ _ _ _ none | zero _ _ _ _ _ none =>
    rw [none]
    exact .ok _
  | finite negative ordinal _ _ _ _ _ _ some =>
    rw [some]
    have short := bitLength_le_iff.mpr (format.significandAt_lt ordinal)
    have lowest := format.lowestPlace_le_placeAt ordinal
    unfold exponentLimit at ranged
    unfold Format.lowestPlace Format.emin at lowest
    have width := format.fractionBits_add_one
    have limit := storageLimit_eq
    exact (format.round_endsTold mode _ false
      (Format.placeFor_sub_lt (by dsimp only; omega) (by dsimp only; omega))).map _

theorem scalb_endsTold (fits : first < 2 ^ format.totalBits) :
    EndsTold (scalb format mode first second) := by
  unfold scalb
  dsimp only
  split_ifs
  · exact .ok _
  · exact .ok _
  · exact .ok _
  · exact .ok _
  · exact .ok _
  · split
    · exact .ok _
    · refine ldexp_endsTold ranged precise fits ?_
      unfold exponentLimit at ranged
      unfold scaleLimit Format.floorExponent Format.emin
      have width := format.fractionBits_add_one
      omega

theorem fdim_endsTold (fits : first < 2 ^ format.totalBits)
    (fits' : second < 2 ^ format.totalBits) : EndsTold (fdim format mode first second) := by
  unfold fdim
  split_ifs
  · exact .ok _
  · exact operation_endsTold ranged precise (by simp [fits, fits']) rfl
  · exact .ok _

theorem hypot_endsTold (fits : first < 2 ^ format.totalBits)
    (fits' : second < 2 ^ format.totalBits) : EndsTold (hypot format mode first second) := by
  unfold hypot
  split
  · exact .ok _
  · exact operation_endsTold ranged precise (by simp [fits, fits']) rfl

theorem pow_endsTold (fits : first < 2 ^ format.totalBits)
    (fits' : second < 2 ^ format.totalBits) : EndsTold (pow format mode first second) := by
  unfold pow
  split
  · exact .ok _
  · exact operation_endsTold ranged precise (by simp [fits, fits']) rfl

variable {routine : Routine}

/-- Routines of one float operand that are no operation. -/
theorem callUnary_endsTold (inputs : routine.shape.inputs = [.float])
    (none : operation? routine = none) (fits : pattern < 2 ^ format.totalBits) :
    EndsTold (callUnary routine format mode pattern) := by
  cases routine <;> try first | exact absurd inputs (by decide) | exact absurd none (by decide)
  case sincos => exact sincos_endsTold ranged precise fits
  case lgamma_r => exact lgammaWithSign_endsTold ranged precise fits
  all_goals exact .ok _

/-- Routines of two float operands that are no operation. -/
theorem callBinary_endsTold (inputs : routine.shape.inputs = [.float, .float])
    (none : operation? routine = none) (fits : first < 2 ^ format.totalBits)
    (fits' : second < 2 ^ format.totalBits) :
    EndsTold (callBinary routine format mode first second) := by
  cases routine <;> try first | exact absurd inputs (by decide) | exact absurd none (by decide)
  case fdim => exact fdim_endsTold ranged precise fits fits'
  case scalb => exact scalb_endsTold ranged precise fits
  case remquo => exact remquo_endsTold ranged precise fits fits'
  case hypot => exact hypot_endsTold ranged precise fits fits'
  case pow => exact pow_endsTold ranged precise fits fits'
  all_goals exact .ok _

omit ranged precise in
/-- An operation takes as many floats as the routine that it is. -/
theorem inputs_of_operation? (operates : operation? routine = some operator) :
    routine.shape.inputs = List.replicate operator.arity .float := by
  cases routine <;> cases operates <;> rfl

omit ranged precise in
theorem length_patternsOf {operands : List SlotValue} {count : ℕ}
    (kinds : operands.map SlotValue.slot = List.replicate count .float) :
    (patternsOf operands).length = count := by
  induction count generalizing operands with
  | zero =>
    rw [List.map_eq_nil_iff.mp kinds]
    rfl
  | succ count ih =>
    obtain ⟨operand, rest, rfl, kind, others⟩ := List.map_eq_cons_iff.mp kinds
    obtain ⟨pattern, rfl⟩ := SlotValue.eq_float_of_slot kind
    exact congrArg Nat.succ (ih others)

omit ranged precise in
theorem mem_patternsOf {operands : List SlotValue} (member : pattern ∈ patternsOf operands) :
    .float pattern ∈ operands := by
  obtain ⟨operand, inside, same⟩ := List.mem_filterMap.mp member
  cases operand with
  | float other =>
    obtain rfl := Option.some.inj same
    exact inside
  | int => exact absurd same nofun

/-- A call on operands of its routine that fit the format, with no power far below zero. -/
theorem call_endsTold {operands : List SlotValue}
    (fills : Fills format routine.shape.inputs operands)
    (above : ∀ power, .int power ∈ operands → -2 ^ (37 : ℕ) ≤ power) :
    EndsTold (call routine format mode operands) := by
  cases operates : operation? routine with
  | some operator =>
    simp only [call, operates]
    refine operation_endsTold ranged precise
      (fun pattern member => fills.float_lt (mem_patternsOf member)) ?_
    exact length_patternsOf (fills.kinds.trans (inputs_of_operation? operates))
  | none =>
    rcases Routine.operands_cases fills.kinds with ⟨pattern, rfl⟩ | ⟨first, second, rfl⟩ |
      ⟨first, second, third, rfl⟩ | ⟨pattern, power, rfl⟩
    · simp only [call, operates]
      exact callUnary_endsTold ranged precise fills.kinds.symm operates (fills.float_lt (by simp))
    · simp only [call, operates]
      exact callBinary_endsTold ranged precise fills.kinds.symm operates
        (fills.float_lt (by simp)) (fills.float_lt (by simp))
    · simp only [call, operates]
      refine (operationPattern_endsTold ranged precise true (fun pattern member => ?_) rfl).map _
      exact fills.float_lt (by simpa using member)
    · simp only [call, operates]
      exact ldexp_endsTold ranged precise (fills.float_lt (by simp)) (above power (by simp))

end Reference

end LibmAudit
