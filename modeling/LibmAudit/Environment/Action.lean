/-
**Actions in an environment.**

What a routine does apart from computing: it reads the rounding mode in force, and it raises
exceptions on the way.

* `Action`: a computation that may use the environments in force and may stop with a fault. When it
  stops, what it has raised by then stays raised.
* `Action.on`: what an action gives on a stack, and the stack that it leaves.
* `Action.mode`, `Action.raise`, `Action.raiseInScope`, `Action.ofExcept`: the single actions.
-/

import LibmAudit.Environment
import LibmAudit.Fault

namespace LibmAudit

/-- A computation with the environments in force that may stop with a fault. -/
abbrev Action := ExceptT Fault (StateM EnvironmentStack)

namespace Action

variable {α β : Type}

/-- What an action gives on a stack, and the stack that it leaves. -/
def on (action : Action α) (stack : EnvironmentStack) : Except Fault α × EnvironmentStack :=
  Id.run ((ExceptT.run action).run stack)

/-- Replaces the stack. -/
def replace (stack : EnvironmentStack) : Action Unit := set stack

/-- The stack. -/
def stack : Action EnvironmentStack := get

/-- The rounding mode of the innermost environment. -/
def mode : Action Mode := do return (← stack).current.mode

/-- Raises exceptions in the innermost environment. -/
def raise (flags : Flags) : Action Unit := do replace ((← stack).raise flags)

/-- Raises the exceptions of a machine operation. -/
def raiseInScope (flags : Flags) : Action Unit := do replace ((← stack).raiseInScope flags)

/-- A step that has nothing to do with the environment. -/
def ofExcept (result : Except Fault α) : Action α := ExceptT.mk (pure result)

variable (stack : EnvironmentStack)

@[simp]
theorem on_pure (value : α) : (pure value : Action α).on stack = (.ok value, stack) := rfl

@[simp]
theorem on_throw (fault : Fault) : (throw fault : Action α).on stack = (.error fault, stack) := rfl

/-- A fault of the first step is one of both, and the second step starts where the first ended. -/
@[simp]
theorem on_bind (action : Action α) (next : α → Action β) :
    (action >>= next).on stack =
      match action.on stack with
      | (.ok value, after) => (next value).on after
      | (.error fault, after) => (.error fault, after) := by
  show Id.run ((ExceptT.run action >>= ExceptT.bindCont next).run stack) = _
  simp only [StateT.run_bind, on, Id.run_bind]
  rcases Id.run ((ExceptT.run action).run stack) with ⟨_ | _, _⟩ <;> rfl

@[simp]
theorem on_replace (after : EnvironmentStack) :
    (replace after).on stack = (.ok (), after) := rfl

@[simp]
theorem on_stack : Action.stack.on stack = (.ok stack, stack) := rfl

@[simp]
theorem on_mode : mode.on stack = (.ok stack.current.mode, stack) := rfl

@[simp]
theorem on_raise (flags : Flags) : (raise flags).on stack = (.ok (), stack.raise flags) := rfl

@[simp]
theorem on_raiseInScope (flags : Flags) :
    (raiseInScope flags).on stack = (.ok (), stack.raiseInScope flags) := rfl

@[simp]
theorem on_ofExcept (result : Except Fault α) : (ofExcept result).on stack = (result, stack) := rfl

end Action

end LibmAudit
