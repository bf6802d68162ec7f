/-
**The libraries agree on the exact routines that the machine has to compose.**

The native library has no machine function for some exact routines, and composes them of operations
that round to nearest. The reference library works on patterns. To nearest both give the same value,
whatever the operands are, except that the reference library refuses to round off more bits than
memory holds.

* `Native.fdim_outputs`: the positive difference.
* `Native.Concurs`: what the reference library gives beside a response of the native one.
* `LibraryKind.native_agrees`: all of these routines.
-/

import LibmAudit.Proofs.Native.Outputs
import LibmAudit.Proofs.Native.Round
import LibmAudit.Proofs.Native.Scaling
import LibmAudit.Proofs.Reference.Operations

namespace LibmAudit

attribute [local instance (high)] instPowNat

variable {format : Format}

namespace Native

/-! ## The positive difference -/

/-- Differences of values are rounded once by both libraries. -/
theorem fdim_outputs (ranged : format.emax + format.fractionBits < exponentLimit)
    {first second : ℕ} (fits : first < 2 ^ format.totalBits)
    (fits' : second < 2 ^ format.totalBits) :
    ∃ response, Reference.fdim format .nearestEven first second = .ok response ∧
      response.outputs = (fdim format first second).outputs := by
  unfold Reference.fdim fdim above
  by_cases nan : format.isNaN first = true ∨ format.isNaN second = true
  · rw [if_pos nan, if_pos nan]
    exact ⟨_, rfl, rfl⟩
  rw [if_neg nan, if_neg nan]
  simp only [decide_eq_true_eq]
  split
  · have patterns : ∀ pattern ∈ [first, second], pattern < 2 ^ format.totalBits :=
      List.forall_mem_cons.mpr ⟨fits, List.forall_mem_singleton.mpr fits'⟩
    obtain ⟨rounded, finished, same⟩ :=
      Operation.finish_nearest format (Number.sub_inRange ranged fits fits')
    have numbers : Reference.anyNaN format [first, second] = false := by
      simpa [Reference.anyNaN] using nan
    have cut : Operation.sub.evaluateOn format .towardZero [first, second] = _ :=
      Operation.evaluateOn_of_fits ranged patterns rfl .towardZero
    have evaluated : Operation.sub.evaluateInto format .nearestEven false [first, second] =
        .ok rounded := by
      rw [Operation.evaluateInto_eq, cut]
      exact finished
    refine ⟨.ofRounded rounded, ?_, ?_⟩
    · rw [Reference.operation, Reference.operationPattern, numbers, if_neg Bool.false_ne_true,
        evaluated]
      rfl
    · rw [Response.ofRounded, same]
      rfl
  · exact ⟨_, rfl, rfl⟩

/-! ## All routines -/

/-- The exact routines that are composed of other machine operations. -/
def composed : List Routine :=
  [.round, .fdim, .ilogb, .logb, .significand, .ldexp, .scalbn, .scalb]

/-- What the reference library gives beside a response of the native library: outputs that agree, or
no response where a value is scaled so far down that more bits are rounded off than memory holds,
and the native library gives a zero. -/
def Concurs (format : Format) (operands : List SlotValue) (response : Response)
    (result : Except Fault Response) : Prop :=
  match result with
  | .ok other => response.Agrees format other ∧
      ∀ pattern power, operands = [.float pattern, .int power] →
        ¬ Reference.IsBeyondStorage format pattern power
  | .error fault => (fault = .shiftTooWide ∨ fault = .outOfMemory) ∧
      ∃ pattern power, operands = [.float pattern, .int power] ∧
        Reference.IsBeyondStorage format pattern power ∧
        response.outputs = [.float (format.zero (format.isNegative pattern))]

/-- Operands of which none is a power are not scaled. -/
theorem concurs_of_floats {operands : List SlotValue} {response other : Response}
    (floats : ∀ pattern power, operands ≠ [.float pattern, .int power])
    (agrees : response.Agrees format other) : Concurs format operands response (.ok other) :=
  ⟨agrees, fun pattern power same => absurd same (floats pattern power)⟩

/-- Scaling by a power of any size. -/
theorem ldexp_concurs (ranged : format.emax + format.fractionBits < exponentLimit)
    (wide : 2 * format.emax + format.precision ≤ scaleLimit) {pattern : ℕ}
    (fits : pattern < 2 ^ format.totalBits) (power : ℤ) :
    Concurs format [.float pattern, .int power] (ldexp format pattern power)
      (Reference.ldexp format .nearestEven pattern power) := by
  have outcome := Reference.ldexp_outcome format pattern power
  have clamped := ldexp_outputs fits wide power
  cases given : Reference.ldexp format .nearestEven pattern power with
  | ok other =>
    rw [given] at outcome
    refine ⟨Response.agrees_of_outputs (clamped.trans outcome.1.symm), ?_⟩
    rintro _ _ ⟨⟩
    exact outcome.2
  | error fault =>
    rw [given] at outcome
    have zero := Reference.scale_of_isBeyondStorage fits ranged outcome.2
    exact ⟨outcome.1, pattern, power, rfl, outcome.2, clamped.trans zero⟩

end Native

namespace LibraryKind

variable {routine : Routine} {operands : List SlotValue}

theorem call_native (kinds : operands.map SlotValue.slot = routine.shape.inputs) (fused : Bool)
    (mode : Mode) :
    (native fused).call routine format mode operands = Native.call routine format operands := by
  rw [call, checkCount_of_kinds (native fused) kinds]
  rfl

theorem lookup_composed {carrier : Carrier} (composed : routine ∈ Native.composed)
    (kind : LibraryKind) : kind.lookup routine carrier.format = .ok () := by
  have stored := Format.carrier?_format carrier
  have available : ∀ routine ∈ Native.composed,
      Native.isDoubleOnly routine = false ∧ routine ≠ .fma := by decide
  obtain ⟨everywhere, other⟩ := available routine composed
  cases kind with
  | reference => simp [lookup, Reference.lookup, stored]
  | native fused => simp [lookup, Native.lookup, stored, everywhere, other]

/-- **The libraries agree on composed routines.** To nearest, on operands of any kind and size, the
native library always ends with outputs, and the reference library ends with the same ones. It stops
instead where more bits of a scaled value are rounded off than memory holds. That the native library
clamps the powers of two changes no value. -/
theorem native_agrees {carrier : Carrier} (stored : format.carrier? = some carrier)
    (composed : routine ∈ Native.composed)
    (fills : Fills format routine.shape.inputs operands) :
    (∀ kind : LibraryKind, kind.lookup routine format = .ok ()) ∧
    (∀ pattern < 2 ^ format.totalBits, ∀ power,
      (Native.ldexp format pattern power).outputs = (Native.scale format pattern power).outputs) ∧
    ∃ response,
      (∀ fused mode, (native fused).call routine format mode operands = .ok response) ∧
      Native.Concurs format operands response
        (reference.call routine format .nearestEven operands) := by
  obtain rfl := Format.format_of_carrier? stored
  have kinds := fills.kinds
  have ranged := carrier.ranged
  have wide := carrier.le_scaleLimit
  obtain ⟨response, called⟩ : ∃ response, Native.call routine carrier.format operands =
      .ok response := by
    refine Native.call_completes ?_ kinds
    rintro rfl
    exact absurd composed (by decide)
  refine ⟨lookup_composed composed, fun pattern fits power => Native.ldexp_outputs fits wide power,
    response, fun fused mode => (call_native kinds fused mode).trans called, ?_⟩
  rw [call_reference kinds]
  have fits (pattern : ℕ) (given : .float pattern ∈ operands) := fills.float_lt given
  simp only [Native.composed, List.mem_cons, List.not_mem_nil, or_false] at composed
  rcases composed with rfl | rfl | rfl | rfl | rfl | rfl | rfl | rfl
  · obtain ⟨pattern, rfl⟩ := SlotValue.eq_float_of_slots kinds
    obtain rfl := Except.ok.inj called
    exact Native.concurs_of_floats nofun
      (Response.agrees_of_outputs (Native.round_outputs (fits pattern (by simp))))
  · obtain ⟨first, second, rfl⟩ := SlotValue.eq_floats_of_slots kinds
    obtain rfl := Except.ok.inj called
    obtain ⟨other, given, same⟩ :=
      Native.fdim_outputs ranged (fits first (by simp)) (fits second (by simp))
    change Native.Concurs _ _ _ (Reference.fdim _ _ _ _)
    rw [given]
    exact Native.concurs_of_floats nofun (Response.agrees_of_outputs same.symm)
  · obtain ⟨pattern, rfl⟩ := SlotValue.eq_float_of_slots kinds
    obtain rfl := Except.ok.inj called
    exact Native.concurs_of_floats nofun
      (Response.agrees_of_outputs (Native.outputs_ilogb (fits pattern (by simp))).symm)
  · obtain ⟨pattern, rfl⟩ := SlotValue.eq_float_of_slots kinds
    obtain rfl := Except.ok.inj called
    exact Native.concurs_of_floats nofun (Native.agrees_logb (fits pattern (by simp)))
  · obtain ⟨pattern, rfl⟩ := SlotValue.eq_float_of_slots kinds
    obtain rfl := Except.ok.inj called
    exact Native.concurs_of_floats nofun
      (Response.agrees_of_outputs (Native.outputs_significand (fits pattern (by simp))).symm)
  · obtain ⟨pattern, power, rfl⟩ := SlotValue.eq_scaled_of_slots kinds
    obtain rfl := Except.ok.inj called
    exact Native.ldexp_concurs ranged wide (fits pattern (by simp)) power
  · obtain ⟨pattern, power, rfl⟩ := SlotValue.eq_scaled_of_slots kinds
    obtain rfl := Except.ok.inj called
    exact Native.ldexp_concurs ranged wide (fits pattern (by simp)) power
  · obtain ⟨first, second, rfl⟩ := SlotValue.eq_floats_of_slots kinds
    obtain rfl := Except.ok.inj called
    obtain ⟨other, given, same⟩ :=
      @Reference.scalb_outputs _ _ second (fits first (by simp)) ranged wide
    change Native.Concurs _ _ _ (Reference.scalb _ _ _ _)
    rw [given]
    exact Native.concurs_of_floats nofun (Response.agrees_of_outputs same.symm)

/-- One, scaled down so far that not even the number of bits that are rounded off can be counted.
The native library gives the zero that is nearest. -/
theorem native_agrees_shiftTooWide :
    reference.call .ldexp .double .nearestEven [.float 0x3ff0000000000000, .int (-2 ^ (80 : ℕ))] =
        .error .shiftTooWide ∧
      Fault.shiftTooWide.category = .overflow ∧
      ∀ fused, (native fused).call .ldexp .double .nearestEven
          [.float 0x3ff0000000000000, .int (-2 ^ (80 : ℕ))] =
        .ok ⟨[.float 0], { underflow := true }⟩ := by
  refine ⟨rfl, rfl, fun _ => rfl⟩

/-- A negative half goes away from zero; and the value that the reference library does not scale. -/
theorem native_agrees_half :
    Format.half.carrier? = some .half ∧ Routine.round ∈ Native.composed ∧
      Fills .half (Routine.shape .round).inputs [.float 0xb800] ∧
      (∃ response,
        (∀ fused mode, (native fused).call .round .half mode [.float 0xb800] = .ok response) ∧
        response.Agrees .half ⟨[.float 0xbc00], .none⟩) ∧
      Format.double.carrier? = some .double ∧ Routine.ldexp ∈ Native.composed ∧
      Fills .double (Routine.shape .ldexp).inputs
        [.float 0x3ff0000000000000, .int (-2 ^ (80 : ℕ))] ∧
      Reference.IsBeyondStorage .double 0x3ff0000000000000 (-2 ^ (80 : ℕ)) := by
  have stored : Format.half.carrier? = some .half := by decide
  have composed : Routine.round ∈ Native.composed := by decide
  have fills : Fills .half (Routine.shape .round).inputs [.float 0xb800] :=
    ⟨rfl, by simp [SlotValue.Fits]; decide⟩
  have stored' : Format.double.carrier? = some .double := by decide
  have composed' : Routine.ldexp ∈ Native.composed := by decide
  have fills' : Fills .double (Routine.shape .ldexp).inputs
      [.float 0x3ff0000000000000, .int (-2 ^ (80 : ℕ))] :=
    ⟨rfl, by simp [SlotValue.Fits]; decide⟩
  obtain ⟨-, -, response, called, concurs⟩ := native_agrees stored composed fills
  have given : reference.call .round .half .nearestEven [.float 0xb800] =
      .ok ⟨[.float 0xbc00], .none⟩ := rfl
  rw [given] at concurs
  obtain ⟨-, -, response', -, concurs'⟩ := native_agrees stored' composed' fills'
  have stopped : reference.call .ldexp .double .nearestEven
      [.float 0x3ff0000000000000, .int (-2 ^ (80 : ℕ))] = .error .shiftTooWide := rfl
  rw [stopped] at concurs'
  obtain ⟨-, _, _, ⟨⟩, beyond, -⟩ := concurs'
  exact ⟨stored, composed, fills, ⟨response, called, concurs.1⟩, stored', composed', fills', beyond⟩

end LibraryKind

end LibmAudit
