/-
**Operands of library routines.**

* `LibraryKind.operandNames`: what a library calls the operands of a routine.
* `LibraryKind.checkCount`: refuses a wrong number of operands, unless the multiprecision operation
  behind the routine does that.
* `LibraryKind.fitOperands`: operands of one routine as operands of another.
-/

import LibmAudit.Reference.Library
import LibmAudit.Value.Conversion

namespace LibmAudit

-- Powers are the built-in ones, whatever else is imported.
attribute [local instance (high)] instPowNat

namespace LibraryKind

/-! ## Numbers of operands -/

/-- What a library calls the operands of a routine. -/
def operandNames (kind : LibraryKind) (routine : Routine) : List String :=
  match kind, routine, routine.shape.inputs with
  | .native _, .atan2, _ => ["y", "x"]
  | _, _, [_] => ["x"]
  | _, _, [_, .int] => ["x", "n"]
  | _, _, [_, _] => ["x", "y"]
  | _, _, _ => ["x", "y", "z"]

/-- What is wrong with a number of operands. The library and the format count as further ones. -/
def countProblem? (names : List String) (given : Nat) : Option ArgumentProblem :=
  if given < names.length then some (.missing (names.drop given))
  else if names.length < given then some (.excess (names.length + 2) (given + 2))
  else none

/-- Whether a routine of a library hands its operands on to a multiprecision operation. -/
def handsOn (kind : LibraryKind) (routine : Routine) : Bool :=
  kind = .reference && (Reference.operation? routine).isSome

/-- Refuses a wrong number of operands. -/
def checkCount (kind : LibraryKind) (routine : Routine) (given : Nat) : Except Fault Unit :=
  match kind.handsOn routine, countProblem? (kind.operandNames routine) given with
  | false, some problem => .error (.argument ("Libm._eval_" ++ routine.name) problem)
  | _, _ => .ok ()

end LibraryKind

/-! ## Kinds of operands -/

/-- The word for the numbers of a format when one of them is no integer. -/
def Format.numberWord (format : Format) : String :=
  if format.carrier? = some .extended then "longdouble" else "float"

/-- A value without its part after the point, which must be finite. -/
def truncate (format : Format) (pattern : Nat) : Except Fault Int :=
  if format.isNaN pattern then .error (.nanToInteger format.numberWord)
  else
    match format.scaled? pattern with
    | some (significand, place) =>
      .ok (if 0 ≤ place then significand * 2 ^ place.toNat
        else Int.tdiv significand (2 ^ (-place).toNat))
    | none => .error (.infinityToInteger format.numberWord)

/-- An operand of one slot as an operand of another. -/
def SlotValue.toSlot (format : Format) (slot : Slot) (operand : SlotValue) :
    Except Fault SlotValue :=
  match slot, operand with
  | .float, .int value => (Value.toFormat format (.int value)).map .float
  | .int, .float pattern => (truncate format pattern).map .int
  | _, operand => .ok operand

/-- Operands in slots; all slots beyond the given ones hold floats. -/
def fitSlots (format : Format) : List Slot → List SlotValue → Except Fault (List SlotValue)
  | _, [] => .ok []
  | [], operand :: rest => do
    return (← operand.toSlot format .float) :: (← fitSlots format [] rest)
  | slot :: slots, operand :: rest => do
    return (← operand.toSlot format slot) :: (← fitSlots format slots rest)

namespace LibraryKind

/-- Operands as those of a routine. The reference library does not look at the power when scaling
leaves the value as it is, and the native library scales by an integer as it is. -/
def fitOperands (kind : LibraryKind) (routine : Routine) (format : Format)
    (operands : List SlotValue) : Except Fault (List SlotValue) := do
  kind.checkCount routine operands.length
  match kind, routine.shape, routine, operands with
  | .reference, .scale, _, [.float pattern, .float power] =>
    if (Reference.parts? format pattern).isNone then return [.float pattern, .int 0]
    else return [.float pattern, .int (← truncate format power)]
  | .native _, _, .scalb, [.float pattern, .int power] => return [.float pattern, .int power]
  | _, _, _, operands => fitSlots format routine.shape.inputs operands

end LibraryKind

end LibmAudit
