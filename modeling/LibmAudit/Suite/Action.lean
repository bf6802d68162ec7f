/-
**Sessions in an environment.**

A session as it goes on: the routines are called in the environments in force, one vector after the
other, and events are told as they happen.

* `Telling`: a computation that tells events. What it has told stays told when a fault ends it.
* `Telling.inScope`: a computation in a scope of its own, which is left also when a fault crosses
  it.
* `performVector`, `performTable`, `performRoutine`: the check of a vector, of a table, and of the
  built-in table of a routine.
* `perform`: a session in a rounding mode.
-/

import LibmAudit.Library.Step
import LibmAudit.Suite.Session

namespace LibmAudit.Suite

/-! ## Computations that tell events -/

/-- A computation with the environments in force that tells events and may stop with a fault. -/
abbrev Telling := ExceptT Fault (StateT (List Event) (StateM EnvironmentStack))

namespace Telling

variable {α β : Type}

/-- What a computation gives when some events have been told: its result, all events, and the stack
that it leaves. -/
def on (telling : Telling α) (events : List Event) (stack : EnvironmentStack) :
    (Except Fault α × List Event) × EnvironmentStack :=
  Id.run (((ExceptT.run telling).run events).run stack)

/-- An action, which tells nothing. -/
def ofAction (action : Action α) : Telling α := ExceptT.mk (StateT.lift (ExceptT.run action))

/-- Tells an event. -/
def tell (event : Event) : Telling Unit := modify fun events => events ++ [event]

/-- A computation in a scope of its own. The scope is left in the end, also when a fault ends the
computation. -/
def inScope (mode : Mode) (telling : Telling α) : Telling α := ExceptT.mk do
  modifyThe EnvironmentStack fun stack => stack.enter mode
  let result ← ExceptT.run telling
  modifyThe EnvironmentStack fun stack => stack.leave 1
  return result

/-- What a computation has told, with the fault that ended it. -/
def session (telling : Telling Unit) : Action Session := ExceptT.mk do
  let (result, events) ← (ExceptT.run telling).run []
  match result with
  | .ok _ => return .ok { events }
  | .error fault => return .ok { events, fault := some fault }

variable (events : List Event) (stack : EnvironmentStack)

@[simp]
theorem on_pure (value : α) : (pure value : Telling α).on events stack =
    ((.ok value, events), stack) := rfl

@[simp]
theorem on_throw (fault : Fault) : (throw fault : Telling α).on events stack =
    ((.error fault, events), stack) := rfl

@[simp]
theorem on_bind (telling : Telling α) (next : α → Telling β) :
    (telling >>= next).on events stack =
      match telling.on events stack with
      | ((.ok value, told), after) => (next value).on told after
      | ((.error fault, told), after) => ((.error fault, told), after) := by
  show Id.run (((ExceptT.run telling >>= ExceptT.bindCont next).run events).run stack) = _
  simp only [StateT.run_bind, on, Id.run_bind]
  rcases Id.run (((ExceptT.run telling).run events).run stack) with ⟨⟨_ | _, _⟩, _⟩ <;> rfl

@[simp]
theorem on_ofAction (action : Action α) : (ofAction action).on events stack =
    (((action.on stack).1, events), (action.on stack).2) := rfl

@[simp]
theorem on_tell (event : Event) : (tell event).on events stack =
    ((.ok (), events ++ [event]), stack) := rfl

/-- A scope is left with the result of what was done in it. -/
theorem on_inScope (mode : Mode) (telling : Telling α) :
    (inScope mode telling).on events stack =
      ((telling.on events (stack.enter mode)).1,
        (telling.on events (stack.enter mode)).2.leave 1) := rfl

theorem on_session (telling : Telling Unit) :
    telling.session.on stack =
      match telling.on [] stack with
      | ((.ok _, events), after) => (.ok { events }, after)
      | ((.error fault, events), after) => (.ok { events, fault := some fault }, after) := by
  show Id.run (StateT.run ((ExceptT.run telling).run [] >>= _) stack) = _
  simp only [StateT.run_bind, on, Id.run_bind]
  rcases Id.run (((ExceptT.run telling).run []).run stack) with ⟨⟨_ | _, _⟩, _⟩ <;> rfl

end Telling

/-! ## Sessions -/

/-- The outputs of a routine of a library for a vector. -/
def outputsFor (kind : LibraryKind) (table : Table) (vector : Vector) : Action (List Value) := do
  let format := table.context.format
  let operands ← Action.ofExcept (kind.fitOperands table.routine format vector.inputs)
  let outputs ← kind.perform table.routine format operands
  Action.ofExcept (unpack table.routine (Response.toValue format ⟨outputs, .none⟩))

/-- Calls a routine on a vector and checks the outputs. -/
def performVector (kind : LibraryKind) (table : Table) (policy : Policy) (tally : Tally)
    (vector : Vector) : Action Tally := do
  let outputs ← outputsFor kind table vector
  Action.ofExcept (checkOutputs table policy vector 0 policy.checked vector.expected outputs tally)

/-- The verdict on a table, by calls for one vector after the other. -/
def performTable (kind : LibraryKind) (table : Table) (policy : Policy) : Action Verdict := do
  let outputs := table.routine.shape.outputs.length
  if policy.checked.length ≠ outputs then
    throw (.policyWidth table.routine.name policy.checked.length outputs)
  let mode ← Action.mode
  let tally ← table.vectors.foldlM (performVector kind table policy) {}
  return ⟨table.routine, table.context, table.vectors.length, tally.failures, tally.maxUlps, mode,
    policy⟩

/-- Checks a table and tells its verdict, after a warning if there is one. -/
def performCheck (kind : LibraryKind) (options : Options) (table : Table) : Telling Unit := do
  let policy ← Telling.ofAction (Action.ofExcept (options.policyFor table.routine))
  let warning := table.warning policy (← Telling.ofAction Action.mode)
  if !warning.isEmpty then Telling.tell (.warned warning)
  let verdict ← Telling.ofAction (performTable kind table policy)
  Telling.tell (.checked verdict)

/-- Checks the built-in table of a routine. A routine that the library does not have is skipped. -/
def performRoutine (context : Context) (kind : LibraryKind) (options : Options)
    (routine : Routine) : Telling Unit := do
  let table ← Telling.ofAction (Action.ofExcept (builtInTable context routine))
  match kind.lookup routine context.format with
  | .ok _ => performCheck kind options table
  | .error fault =>
    if fault.category = .function then Telling.tell (.skipped routine fault.message)
    else throw fault

/-- Checks the built-in tables of the named routines, or of all, in the order of the catalog, in a
scope with a rounding mode. -/
def perform (context : Context) (kind : LibraryKind) (mode : Mode) (options : Options)
    (names : Option (List Datum)) : Action Session :=
  Telling.session <| Telling.inScope mode do
    let routines ←
      Telling.ofAction (Action.ofExcept (names.elim (.ok Routine.all) selectRoutines))
    routines.forM (performRoutine context kind options)

end LibmAudit.Suite
