/-
**Sessions in an environment.**

A session that calls routines in the environments in force, and raises exceptions on the way, tells
the events of the session that is computed from the results of pure calls. It leaves the stack as it
was: all exceptions are raised in the environment of its scope.

* `EnvironmentStack.within`: the stack inside a scope.
* `Action.Gives`: the actions that give a result inside a scope and only raise exceptions there.
* `performTable_gives`: the verdict on a table.
* `Telling.Follows`: the computations that tell what a step of a session records.
* `on_perform`: a whole session.
-/

import LibmAudit.Proofs.Native.Agreement
import LibmAudit.Proofs.Suite.Sessions
import LibmAudit.Suite.Action

namespace LibmAudit

/-! ## Inside a scope -/

namespace EnvironmentStack

variable (stack : EnvironmentStack) (mode : Mode) (flags more : Flags)

/-- The stack inside a scope in which exceptions have been raised. -/
def within : EnvironmentStack := (stack.enter mode).raise flags

theorem current_within : (stack.within mode flags).current.mode = mode := by
  rw [within, current_raise, current_enter]
  rfl

theorem raise_within :
    (stack.within mode flags).raise more = stack.within mode (flags.union more) :=
  raise_raise _ flags more

/-- In a scope on which nothing was pushed, machine operations raise exceptions in its environment
as well. -/
theorem raiseInScope_within : (stack.within mode flags).raiseInScope more =
    stack.within mode (flags.union more) := by
  rw [← raise_within]
  have position : (stack.environments.length + 1) - 1 - stack.environments.length = 0 := by omega
  show (stack.within mode flags).modify
    ((stack.within mode flags).environments.length - 1 - stack.environments.length) _ = _
  have length : (stack.within mode flags).environments.length = stack.environments.length + 1 := by
    simp [within, raise, enter]
  rw [length, position]
  rfl

theorem leave_within : (stack.within mode flags).leave 1 = stack := by
  have recorded : (stack.within mode flags).scopes =
      stack.environments.length :: stack.scopes := rfl
  obtain ⟨after, exited, scopes, environments⟩ := (stack.within mode flags).exit?_of_cons recorded
  rw [leave, exited]
  show after = stack
  ext1
  · rw [environments]
    simp [within, raise, enter]
  · exact scopes

end EnvironmentStack

namespace Action

variable {α β : Type} {base : EnvironmentStack} {mode : Mode} {action : Action α}
  {given : Except Fault α}

/-- The action gives a result inside a scope, and only raises exceptions there. -/
def Gives (base : EnvironmentStack) (mode : Mode) (action : Action α) (given : Except Fault α) :
    Prop :=
  ∀ flags, ∃ more, action.on (base.within mode flags) = (given, base.within mode more)

namespace Gives

theorem ofExcept (given : Except Fault α) : Gives base mode (Action.ofExcept given) given :=
  fun flags => ⟨flags, rfl⟩

theorem pure (value : α) : Gives base mode (Pure.pure value) (.ok value) :=
  fun flags => ⟨flags, rfl⟩

theorem ofMode : Gives base mode Action.mode (.ok mode) := fun flags =>
  ⟨flags, by rw [on_mode, base.current_within]⟩

theorem bind {next : α → Action β} {rest : α → Except Fault β}
    (first : Gives base mode action given)
    (second : ∀ value, given = .ok value → Gives base mode (next value) (rest value)) :
    Gives base mode (action >>= next) (given >>= rest) := by
  intro flags
  obtain ⟨raised, here⟩ := first flags
  rw [on_bind, here]
  cases given with
  | error fault => exact ⟨raised, rfl⟩
  | ok value => exact second value rfl raised

theorem ofOk {value : α} {next : α → Action β} {result : Except Fault β}
    (gives : Gives base mode (next value) result) :
    Gives base mode (Action.ofExcept (.ok value) >>= next) result := by
  intro flags
  rw [on_bind, on_ofExcept]
  exact gives flags

end Gives

end Action

/-! ## Calls -/

section Calls

open LibmAudit.Action

variable {base : EnvironmentStack} {mode : Mode} {kind : LibraryKind} {carrier : Carrier}

/-- A call raises exceptions in the environment of the scope, and nothing else. -/
theorem LibraryKind.perform_gives (routine : Routine) (operands : List SlotValue) :
    Gives base mode (kind.perform routine carrier.format operands)
      ((kind.call routine carrier.format mode operands).map Response.outputs) := by
  intro flags
  rw [kind.on_perform carrier.precise, base.current_within]
  cases kind.call routine carrier.format mode operands with
  | error fault => exact ⟨flags, rfl⟩
  | ok response =>
    cases kind with
    | reference => exact ⟨_, congrArg _ (base.raise_within mode flags response.flags)⟩
    | native _ => exact ⟨_, congrArg _ (base.raiseInScope_within mode flags response.flags)⟩

namespace Suite

variable {table : Table} {policy : Policy}
  (ordinary : ∀ vector ∈ table.vectors, vector.IsOrdinary table.routine table.context.format)
  (stored : table.context.format = carrier.format)

include stored

/-- The outputs of a call for a vector. -/
theorem outputsFor_gives {vector : Vector}
    (ordinary : vector.IsOrdinary table.routine table.context.format) :
    Gives base mode (outputsFor kind table vector)
      ((kind.callOn table.routine table.context.format mode vector).map
          (Response.toValue table.context.format) >>= unpack table.routine) := by
  have split (called : Except Fault Response) :
      called.map (Response.toValue table.context.format) >>= unpack table.routine =
        (called.map Response.outputs >>= fun outputs =>
          unpack table.routine (Response.toValue table.context.format ⟨outputs, .none⟩)) := by
    cases called <;> rfl
  unfold outputsFor
  dsimp only
  rw [split, kind.fitOperands_of_kinds _ ordinary.kinds]
  rw [stored] at ordinary ⊢
  rw [LibraryKind.callOn_eq ordinary]
  exact .ofOk (.bind (LibraryKind.perform_gives _ _) fun outputs _ => .ofExcept _)

/-- The calls for several vectors, with the checks of their outputs. -/
theorem foldlM_performVector_gives {vectors : List Vector}
    (ordinary : ∀ vector ∈ vectors, vector.IsOrdinary table.routine table.context.format)
    (tally : Tally) :
    Gives base mode (vectors.foldlM (performVector kind table policy) tally)
      (checkVectors table policy vectors (vectors.map fun vector =>
        (kind.callOn table.routine table.context.format mode vector).map
          (Response.toValue table.context.format)) tally) := by
  induction vectors generalizing tally with
  | nil => exact .pure _
  | cons vector rest ih =>
    rw [List.forall_mem_cons] at ordinary
    rw [List.foldlM_cons, List.map_cons, checkVectors, ← bind_assoc, ← bind_assoc]
    refine .bind (.bind (outputsFor_gives stored ordinary.1) fun outputs _ => .ofExcept _)
      fun tally _ => ih ordinary.2 tally

include ordinary

/-- The verdict on a table is that on the results of pure calls. -/
theorem performTable_gives
    (provided : kind.lookup table.routine table.context.format = .ok ()) :
    Gives base mode (performTable kind table policy) (verdictOn table kind mode policy) := by
  rw [verdictOn_eq provided]
  unfold performTable Table.run
  dsimp only
  split
  · exact fun flags => ⟨flags, rfl⟩
  · have length : min table.vectors.length (resultsOf kind mode table).length =
        table.vectors.length := by
      rw [resultsOf, List.length_map, min_self]
    rw [length]
    exact .bind .ofMode fun _ _ => .bind (foldlM_performVector_gives stored ordinary {})
      fun tally _ => .pure _

end Suite

end Calls

/-! ## Sessions -/

namespace Suite

/-- What a computation that tells the events of a session gives. -/
def Session.outcome (session : Session) : Except Fault Unit × List Event :=
  (match session.fault with
    | some fault => .error fault
    | none => .ok (), session.events)

/-- The computation tells what a step adds to a session inside a scope, and ends with its fault. -/
def Telling.Follows (base : EnvironmentStack) (mode : Mode) (telling : Telling Unit)
    (step : Session → Session) : Prop :=
  ∀ events flags, ∃ more, telling.on events (base.within mode flags) =
    ((step { events }).outcome, base.within mode more)

variable {base : EnvironmentStack} {context : Context} {kind : LibraryKind} {mode : Mode}
  {options : Options}

theorem performCheck_follows {table : Table} {carrier : Carrier}
    (ordinary : ∀ vector ∈ table.vectors, vector.IsOrdinary table.routine table.context.format)
    (stored : table.context.format = carrier.format)
    (provided : kind.lookup table.routine table.context.format = .ok ()) :
    Telling.Follows base mode (performCheck kind options table) fun session =>
      checkTable kind mode options session table := by
  intro events flags
  unfold performCheck checkTable
  simp only [Telling.on_bind, Telling.on_ofAction, Action.on_ofExcept]
  cases options.policyFor table.routine with
  | error fault => exact ⟨flags, rfl⟩
  | ok policy =>
    obtain ⟨more, ran⟩ : ∃ more, (performTable kind table policy).on (base.within mode flags) =
        (verdictOn table kind mode policy, base.within mode more) :=
      performTable_gives ordinary stored provided flags
    refine ⟨more, ?_⟩
    dsimp only
    rw [Action.on_mode, base.current_within]
    dsimp only
    -- The warning is told before the table is checked. It stays told when that ends with a fault.
    cases (table.warning policy mode).isEmpty <;>
      cases verdict : verdictOn table kind mode policy <;>
        simp [ran, verdict, Session.outcome, Session.record, Session.stop]

theorem performRoutine_follows (named : IsNamed context) (routine : Routine) :
    Telling.Follows base mode (performRoutine context kind options routine) fun session =>
      checkRoutine context kind mode options session routine := by
  intro events flags
  unfold performRoutine checkRoutine
  rw [Telling.on_bind, Telling.on_ofAction, Action.on_ofExcept]
  rcases builtInTable_cases named routine with ⟨fault, failed, -⟩ | ⟨table, built, builtIn⟩
  · rw [failed]
    exact ⟨flags, rfl⟩
  rw [built]
  dsimp only
  cases provided : kind.lookup routine context.format with
  | ok _ =>
    obtain ⟨rfl, rfl, ⟨carrier, stored⟩, ordinary⟩ := builtIn
    exact performCheck_follows ordinary stored provided events flags
  | error fault =>
    dsimp only
    split
    · exact ⟨flags, rfl⟩
    · exact ⟨flags, rfl⟩

theorem forM_follows (named : IsNamed context) (routines : List Routine) :
    Telling.Follows base mode (routines.forM (performRoutine context kind options)) fun session =>
      runFrom context kind mode options session routines := by
  induction routines with
  | nil => exact fun events flags => ⟨flags, rfl⟩
  | cons routine rest ih =>
    intro events flags
    obtain ⟨more, here⟩ : ∃ more, (performRoutine context kind options routine).on events
          (base.within mode flags) =
        ((checkRoutine context kind mode options { events } routine).outcome,
          base.within mode more) := performRoutine_follows named routine events flags
    have first : (routine :: rest).forM (performRoutine context kind options) =
        performRoutine context kind options routine >>= fun _ =>
          rest.forM (performRoutine context kind options) := rfl
    rw [first, Telling.on_bind, here]
    simp only [runFrom]
    generalize checkRoutine context kind mode options { events } routine = after
    rcases after with ⟨told, _ | fault⟩
    · exact ih told more
    · rw [runFrom_of_fault rfl]
      exact ⟨more, rfl⟩

/-- A session calls its routines in the environments in force, and leaves these as they were. -/
theorem on_perform (named : IsNamed context) (names : Option (List Datum)) :
    (perform context kind mode options names).on base =
      (.ok (run context kind mode options names), base) := by
  unfold perform run
  rw [Telling.on_session, Telling.on_inScope]
  have entered : base.enter mode = base.within mode .none := by
    rw [EnvironmentStack.within, EnvironmentStack.raise_none]
  rw [entered, Telling.on_bind, Telling.on_ofAction, Action.on_ofExcept]
  cases names.elim (.ok Routine.all) selectRoutines with
  | error fault =>
    dsimp only
    rw [base.leave_within]
  | ok routines =>
    obtain ⟨more, went⟩ : ∃ more, (routines.forM (performRoutine context kind options)).on []
          (base.within mode .none) =
        ((runFrom context kind mode options {} routines).outcome, base.within mode more) :=
      forM_follows named routines [] .none
    dsimp only
    rw [went]
    rcases runFrom context kind mode options {} routines with ⟨events, _ | fault⟩ <;>
    · dsimp only [Session.outcome]
      rw [base.leave_within]

end Suite

end LibmAudit
