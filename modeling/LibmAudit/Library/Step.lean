/-
**Steps of an environment.**

* `LibraryKind.perform`: a routine of a library in the environments in force.
* `EnvironmentStep`: what may be done to the environments. Scopes are entered and left, one by one
  or several at once by a fault that crosses them, environments are pushed, exceptions are raised,
  tested and cleared, and routines are called.
* `EnvironmentStep.perform`: what a step does and shows.
-/

import LibmAudit.Library.Choice
import LibmAudit.Reference.Action

namespace LibmAudit

/-- A routine of a library in the environments in force. A routine of the reference library looks at
the innermost one; what the native library raises goes to that of the innermost scope. -/
def LibraryKind.perform (kind : LibraryKind) (routine : Routine) (format : Format)
    (operands : List SlotValue) : Action (List SlotValue) := do
  Action.ofExcept (kind.checkCount routine operands.length)
  match kind with
  | .reference => Reference.perform routine format operands
  | .native _ =>
    let response ← Action.ofExcept (Native.call routine format operands)
    Action.raiseInScope response.flags
    return response.outputs

/-- What may be done to the environments. -/
inductive EnvironmentStep
  | enter (mode : Mode)
  | exit
  /-- A fault that crosses this many scopes. -/
  | escape (levels : Nat)
  | push (environment : Environment)
  | raise (flags : Flags)
  | test (flags : Flags)
  | clear (flags : Flags)
  | call (kind : LibraryKind) (routine : Routine) (format : Format) (operands : List SlotValue)

/-- What a step shows. -/
inductive StepResult
  | nothing
  | raised (flags : Flags)
  | outputs (values : List SlotValue)

/-- What a step does and shows. -/
def EnvironmentStep.perform : EnvironmentStep → Action StepResult
  | enter mode => do
    Action.replace ((← Action.stack).enter mode)
    return .nothing
  | exit => do
    match (← Action.stack).exit? with
    | some outer => Action.replace outer; return .nothing
    | none => throw .noOpenScope
  | escape levels => do
    let stack ← Action.stack
    Action.replace (stack.leave levels)
    if stack.scopes.length < levels then throw .tooFewScopes else return .nothing
  | push environment => do
    Action.replace ((← Action.stack).push environment)
    return .nothing
  | raise flags => do
    Action.raise flags
    return .nothing
  | test flags => do return .raised ((← Action.stack).current.flags.inter flags)
  | clear flags => do
    Action.replace ((← Action.stack).clear flags)
    return .nothing
  | call kind routine format operands => do
    Action.ofExcept (kind.lookup routine format)
    return .outputs (← kind.perform routine format operands)

/-- The stack after a step. -/
def EnvironmentStack.step (stack : EnvironmentStack) (step : EnvironmentStep) :
    EnvironmentStack :=
  (step.perform.on stack).2

end LibmAudit
