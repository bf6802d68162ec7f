/-
**Scopes restore the environments.**

* `runSteps`: the stack after a run of steps from the initial stack.
* `openings`: the scopes that a run leaves open, each with the run up to its entry, told from the
  steps alone.
* `EnvironmentStep.target`, `EnvironmentStep.flagsAfter`: the environment that a step acts on, and
  the exceptions that it leaves there.
* `Encloses`: what every step keeps. The stack has recorded on how many environments each open scope
  was entered, and these lie unchanged below the environment of the scope.
* `scopes_restore`: leaving scopes, one by one or several at once, gives back the stack on which the
  outermost of them was entered. An open scope keeps its mode and all that lies below it, and of the
  environments that a step leaves in place it changes the exceptions of its target alone.
-/

import LibmAudit.Proofs.Reference.Action

namespace LibmAudit

/-! ## Runs -/

/-- The stack after a run of steps, of which the last one comes first. -/
def runSteps : List EnvironmentStep → EnvironmentStack
  | [] => {}
  | step :: earlier => (runSteps earlier).step step

/-- A scope with the run up to its entry. -/
structure Opening where
  mode : Mode
  before : List EnvironmentStep

/-- The scopes that a run leaves open, the innermost first. -/
def openings : List EnvironmentStep → List Opening
  | [] => []
  | .enter mode :: earlier => ⟨mode, earlier⟩ :: openings earlier
  | .exit :: earlier => (openings earlier).tail
  | .escape levels :: earlier => (openings earlier).drop levels
  | .push _ :: earlier => openings earlier
  | .raise _ :: earlier => openings earlier
  | .test _ :: earlier => openings earlier
  | .clear _ :: earlier => openings earlier
  | .call _ _ _ _ :: earlier => openings earlier

/-- The run up to the entry of the outermost of the scopes that leaving this many levels closes. -/
def beforeClosed (levels : Nat) (steps : List EnvironmentStep) : List EnvironmentStep :=
  (((openings steps).take levels).getLast?.map Opening.before).getD steps

namespace EnvironmentStep

/-- The step leaves all environments in place and adds none. -/
def isInPlace : EnvironmentStep → Bool
  | enter _ | exit | escape _ | push _ => false
  | raise _ | test _ | clear _ | call _ _ _ _ => true

/-- The place of the environment whose exceptions a step may change, counted from the outermost one
on: that of the innermost scope for a native call, and the innermost one for every other step. A
native call outside all scopes has none. -/
def target (steps : List EnvironmentStep) : EnvironmentStep → Nat
  | call (.native _) _ _ _ =>
    match openings steps with
    | [] => (runSteps steps).toList.length
    | opening :: _ => (runSteps opening.before).toList.length
  | _ => (runSteps steps).toList.length - 1

end EnvironmentStep

/-- The exceptions that a call raises in a mode. A routine that is missing or stops raises none. -/
def LibraryKind.raised (kind : LibraryKind) (routine : Routine) (format : Format) (mode : Mode)
    (operands : List SlotValue) : Flags :=
  match kind.lookup routine format, kind.call routine format mode operands with
  | .ok _, .ok response => response.flags
  | _, _ => .none

/-- The exceptions after a step of the environment that it acts on. -/
def EnvironmentStep.flagsAfter (environment : Environment) : EnvironmentStep → Flags
  | raise flags => environment.flags.union flags
  | clear flags => environment.flags.clear flags
  | call kind routine format operands =>
    environment.flags.union (kind.raised routine format environment.mode operands)
  | enter _ | exit | escape _ | push _ | test _ => environment.flags

/-! ## What every step keeps -/

/-- An open scope: its mode, and the environments that it was entered on. -/
structure OpenScope where
  mode : Mode
  outside : List Environment

/-- A stack with its open scopes, the innermost first. -/
structure Encloses (stack : EnvironmentStack) (scopes : List OpenScope) : Prop where
  recorded : stack.scopes = scopes.map fun scope => scope.outside.length
  kept : ∀ scope ∈ scopes, ∃ above flags,
    stack.environments = above ++ ⟨scope.mode, flags⟩ :: scope.outside

/-- A change of one environment that is not below a scope leaves the scope and all below it. -/
theorem exists_modify_eq {change : Environment → Environment}
    (keepsMode : ∀ environment, (change environment).mode = environment.mode)
    (outside : List Environment) (mode : Mode) (flags : Flags) (above : List Environment)
    (position : Nat) (inside : position ≤ above.length) :
    ∃ aboveAfter flagsAfter, (above ++ ⟨mode, flags⟩ :: outside).modify position change =
      aboveAfter ++ ⟨mode, flagsAfter⟩ :: outside := by
  induction above generalizing position with
  | nil =>
    obtain rfl : position = 0 := Nat.le_zero.mp inside
    have same := keepsMode ⟨mode, flags⟩
    rcases changed : change ⟨mode, flags⟩ with ⟨modeAfter, flagsAfter⟩
    rw [changed] at same
    obtain rfl : modeAfter = mode := same
    exact ⟨[], flagsAfter, by simp [changed]⟩
  | cons top above induction =>
    cases position with
    | zero => exact ⟨change top :: above, flags, rfl⟩
    | succ position =>
      obtain ⟨aboveAfter, flagsAfter, shape⟩ :=
        induction position (Nat.le_of_succ_le_succ inside)
      exact ⟨top :: aboveAfter, flagsAfter, by simp [shape]⟩

namespace Encloses

variable {stack : EnvironmentStack} {scope : OpenScope} {scopes : List OpenScope}

theorem push (encloses : Encloses stack scopes) (environment : Environment) :
    Encloses (stack.push environment) scopes where
  recorded := encloses.recorded
  kept := by
    intro scope isOpen
    obtain ⟨above, flags, shape⟩ := encloses.kept scope isOpen
    exact ⟨environment :: above, flags, by simp [EnvironmentStack.push, shape]⟩

theorem enter (encloses : Encloses stack scopes) (mode : Mode) :
    Encloses (stack.enter mode) (⟨mode, stack.environments⟩ :: scopes) where
  recorded := by simp [EnvironmentStack.enter, encloses.recorded]
  kept := by
    rw [List.forall_mem_cons]
    constructor
    · exact ⟨[], .none, rfl⟩
    · intro scope isOpen
      obtain ⟨above, flags, shape⟩ := encloses.kept scope isOpen
      exact ⟨⟨mode, .none⟩ :: above, flags, by simp [EnvironmentStack.enter, shape]⟩

theorem length_lt (encloses : Encloses stack scopes) (isOpen : scope ∈ scopes) :
    scope.outside.length < stack.environments.length := by
  refine stack.lt_length ?_
  rw [encloses.recorded]
  exact List.mem_map_of_mem isOpen

/-- Scopes further out were entered on fewer environments. -/
theorem length_outside_lt (encloses : Encloses stack (scope :: scopes)) {further : OpenScope}
    (isOpen : further ∈ scopes) : further.outside.length < scope.outside.length := by
  have ordered := (List.pairwise_cons.mp stack.ordered).2
  rw [encloses.recorded, List.map_cons, List.cons_append] at ordered
  refine (List.pairwise_cons.mp ordered).1 _ (List.mem_append_left _ ?_)
  exact List.mem_map_of_mem isOpen

theorem modify (encloses : Encloses stack scopes) {position : Nat}
    {change : Environment → Environment}
    (keepsMode : ∀ environment, (change environment).mode = environment.mode)
    (inside : ∀ scope ∈ scopes, position + scope.outside.length < stack.environments.length) :
    Encloses (stack.modify position change) scopes where
  recorded := encloses.recorded
  kept := by
    intro scope isOpen
    obtain ⟨above, flags, shape⟩ := encloses.kept scope isOpen
    have within := inside scope isOpen
    rw [shape, List.length_append, List.length_cons] at within
    rw [EnvironmentStack.environments_modify, shape]
    exact exists_modify_eq keepsMode scope.outside scope.mode flags above position (by omega)

theorem modifyTop (encloses : Encloses stack scopes) {change : Environment → Environment}
    (keepsMode : ∀ environment, (change environment).mode = environment.mode) :
    Encloses (stack.modify 0 change) scopes := by
  refine encloses.modify keepsMode fun scope isOpen => ?_
  rw [Nat.zero_add]
  exact encloses.length_lt isOpen

theorem raiseInScope (encloses : Encloses stack scopes) (flags : Flags) :
    Encloses (stack.raiseInScope flags) scopes := by
  cases scopes with
  | nil =>
    rw [EnvironmentStack.raiseInScope, show stack.scopes = [] from encloses.recorded]
    exact encloses
  | cons innermost scopes =>
    rw [EnvironmentStack.raiseInScope,
      show stack.scopes = innermost.outside.length :: _ from encloses.recorded]
    refine encloses.modify (fun _ => rfl) ?_
    have room := encloses.length_lt List.mem_cons_self
    intro scope isOpen
    rcases List.mem_cons.mp isOpen with rfl | further
    · omega
    · have fewer := encloses.length_outside_lt further
      omega

theorem raiseIn (encloses : Encloses stack scopes) (kind : LibraryKind) (flags : Flags) :
    Encloses (kind.raiseIn stack flags) scopes := by
  cases kind with
  | reference => exact encloses.modifyTop fun _ => rfl
  | native _ => exact encloses.raiseInScope flags

/-- Leaving the innermost scope gives back the environments that it was entered on. -/
theorem exit (encloses : Encloses stack (scope :: scopes)) :
    ∃ after, stack.exit? = some after ∧ after.environments = scope.outside ∧
      Encloses after scopes := by
  obtain ⟨after, exited, recorded, environments⟩ :=
    stack.exit?_of_cons (encloses.recorded.trans List.map_cons)
  obtain ⟨above, flags, shape⟩ := encloses.kept scope List.mem_cons_self
  have cut : stack.environments.length - scope.outside.length = above.length + 1 := by
    simp only [shape, List.length_append, List.length_cons]
    omega
  rw [cut] at environments
  refine ⟨after, exited, by simp [environments, shape], recorded, fun further isOpen => ?_⟩
  obtain ⟨aboveFurther, flagsFurther, shapeFurther⟩ :=
    encloses.kept further (List.mem_cons_of_mem _ isOpen)
  have fewer := encloses.length_outside_lt isOpen
  have room : above.length + 1 ≤ aboveFurther.length := by
    have same := congrArg List.length (shape.symm.trans shapeFurther)
    simp only [List.length_append, List.length_cons] at same
    omega
  exact ⟨aboveFurther.drop (above.length + 1), flagsFurther, by
    rw [environments, shapeFurther, List.drop_append_of_le_length room]⟩

theorem leave (encloses : Encloses stack scopes) (levels : Nat) :
    Encloses (stack.leave levels) (scopes.drop levels) := by
  induction levels generalizing stack scopes with
  | zero => exact encloses
  | succ levels induction =>
    cases scopes with
    | nil =>
      rw [EnvironmentStack.leave, stack.exit?_of_nil encloses.recorded]
      exact encloses
    | cons scope scopes =>
      obtain ⟨after, exited, -, further⟩ := encloses.exit
      rw [EnvironmentStack.leave, exited]
      exact induction further

end Encloses

/-! ## Single steps -/

namespace EnvironmentStack

variable (stack : EnvironmentStack)

theorem step_exit : stack.step .exit = stack.leave 1 := by
  simp only [step, EnvironmentStep.perform, Action.on_bind, Action.on_stack, leave]
  cases stack.exit? <;> rfl

theorem step_escape (levels : Nat) : stack.step (.escape levels) = stack.leave levels := by
  simp only [step, EnvironmentStep.perform, Action.on_bind, Action.on_stack, Action.on_replace]
  split_ifs <;> rfl

/-- A call raises its exceptions where those of the library go. -/
theorem step_call (kind : LibraryKind) (routine : Routine) (format : Format)
    (operands : List SlotValue) :
    stack.step (.call kind routine format operands) =
      kind.raiseIn stack (kind.raised routine format stack.current.mode operands) := by
  simp only [step, EnvironmentStep.perform, Action.on_bind, Action.on_ofExcept,
    LibraryKind.raised]
  cases provided : kind.lookup routine format with
  | error fault => exact (kind.raiseIn_none stack).symm
  | ok _ =>
    dsimp only
    rw [kind.on_perform (kind.precise_of_lookup provided) routine operands stack]
    cases kind.call routine format stack.current.mode operands with
    | error fault => exact (kind.raiseIn_none stack).symm
    | ok response => rfl

end EnvironmentStack

/-! ## Whole runs -/

/-- The open scopes of a run, with the environments that each was entered on. -/
def openScopes (steps : List EnvironmentStep) : List OpenScope :=
  (openings steps).map fun opening => ⟨opening.mode, (runSteps opening.before).environments⟩

theorem runSteps_encloses (steps : List EnvironmentStep) :
    Encloses (runSteps steps) (openScopes steps) := by
  induction steps with
  | nil => exact ⟨rfl, nofun⟩
  | cons step earlier induction =>
    cases step with
    | enter mode => exact induction.enter mode
    | exit =>
      rw [runSteps, EnvironmentStack.step_exit, openScopes, openings, ← List.drop_one,
        List.map_drop]
      exact induction.leave 1
    | escape levels =>
      rw [runSteps, EnvironmentStack.step_escape, openScopes, openings, List.map_drop]
      exact induction.leave levels
    | push environment => exact induction.push environment
    | raise flags => exact induction.modifyTop fun _ => rfl
    | test flags => exact induction
    | clear flags => exact induction.modifyTop fun _ => rfl
    | call kind routine format operands =>
      rw [runSteps, EnvironmentStack.step_call]
      exact induction.raiseIn kind _

/-- The scopes further out than an open one are those that were open when it was entered. -/
theorem openings_before {steps : List EnvironmentStep} {opening : Opening} {outer : List Opening}
    (isOpen : opening :: outer <:+ openings steps) : openings opening.before = outer := by
  induction steps with
  | nil => simp [openings] at isOpen
  | cons step earlier induction =>
    cases step with
    | enter mode =>
      rcases List.suffix_cons_iff.mp isOpen with same | further
      · obtain ⟨rfl, rfl⟩ := List.cons.inj same
        rfl
      · exact induction further
    | exit => exact induction (isOpen.trans (List.tail_suffix _))
    | escape levels => exact induction (isOpen.trans (List.drop_suffix _ _))
    | push | raise | test | clear | call => exact induction isOpen

theorem openings_before_of_cons {steps : List EnvironmentStep} {opening : Opening}
    {outer : List Opening} (shape : openings steps = opening :: outer) :
    openings opening.before = outer := by
  refine openings_before (?_ : opening :: outer <:+ openings steps)
  rw [shape]

theorem runSteps_exit? {steps : List EnvironmentStep} {opening : Opening} {outer : List Opening}
    (shape : openings steps = opening :: outer) :
    (runSteps steps).exit? = some (runSteps opening.before) := by
  have encloses := runSteps_encloses steps
  rw [openScopes, shape, List.map_cons] at encloses
  obtain ⟨after, exited, environments, further⟩ := encloses.exit
  rw [exited]
  congr 1
  ext1
  · exact environments
  · rw [further.recorded, (runSteps_encloses opening.before).recorded, openScopes,
      openings_before_of_cons shape]

theorem leave_runSteps (levels : Nat) (steps : List EnvironmentStep) :
    (runSteps steps).leave levels = runSteps (beforeClosed levels steps) := by
  induction levels generalizing steps with
  | zero => simp [beforeClosed, EnvironmentStack.leave]
  | succ levels induction =>
    rw [EnvironmentStack.leave, beforeClosed]
    cases shape : openings steps with
    | nil =>
      have closed : (runSteps steps).scopes = [] := by
        rw [(runSteps_encloses steps).recorded, openScopes, shape]
        rfl
      rw [(runSteps steps).exit?_of_nil closed]
      rfl
    | cons opening outer =>
      rw [runSteps_exit? shape]
      show (runSteps opening.before).leave levels = _
      rw [induction, beforeClosed, openings_before_of_cons shape, List.take_succ_cons,
        List.getLast?_cons]
      cases (outer.take levels).getLast? <;> rfl

/-- An open scope keeps its mode, and the environments that it was entered on keep everything. -/
theorem runSteps_below {steps : List EnvironmentStep} {opening : Opening}
    (isOpen : opening ∈ openings steps) :
    ∃ flags above, (runSteps steps).toList =
      (runSteps opening.before).toList ++ ⟨opening.mode, flags⟩ :: above := by
  obtain ⟨above, flags, shape⟩ := (runSteps_encloses steps).kept
    ⟨opening.mode, (runSteps opening.before).environments⟩ (List.mem_map_of_mem isOpen)
  exact ⟨flags, above.reverse, by simp [EnvironmentStack.toList, shape]⟩

theorem modify_append_cons {α : Type} (change : α → α) (front back : List α) (element : α) :
    (front ++ element :: back).modify front.length change =
      front ++ change element :: back := by
  induction front with
  | nil => rfl
  | cons first front induction => simp [induction]

/-- A change of one environment, with the places counted from the outermost one on. -/
theorem toList_modify (stack : EnvironmentStack) {position : Nat}
    (within : position < stack.environments.length) (change : Environment → Environment) :
    (stack.modify position change).toList =
      stack.toList.modify (stack.toList.length - 1 - position) change := by
  obtain ⟨above, environment, below, shape, rfl, changed⟩ := List.exists_of_modify change within
  have place : stack.toList.length - 1 - above.length = below.reverse.length := by
    simp [EnvironmentStack.toList, shape]
  rw [place, EnvironmentStack.toList, EnvironmentStack.environments_modify, changed,
    EnvironmentStack.toList, shape]
  simp only [List.reverse_append, List.reverse_cons, List.append_assoc, List.singleton_append]
  rw [modify_append_cons]

/-- Of a change of the innermost environment only what becomes of that environment counts. -/
theorem toList_modifyTop (stack : EnvironmentStack) {change other : Environment → Environment}
    (same : change stack.current = other stack.current) :
    (stack.modify 0 change).toList = stack.toList.modify (stack.toList.length - 1) other := by
  obtain ⟨below, shape⟩ := stack.exists_environments_eq
  have equal : stack.modify 0 change = stack.modify 0 other := by
    ext1
    · rw [EnvironmentStack.environments_modify, EnvironmentStack.environments_modify, shape,
        List.modify_zero_cons, List.modify_zero_cons, same]
    · rfl
  rw [equal]
  exact toList_modify stack stack.length_pos other

/-- What a native call raises goes to the environment of the innermost scope, and nowhere outside
all scopes. -/
theorem toList_raiseInScope (steps : List EnvironmentStep) (fused : Bool) (routine : Routine)
    (format : Format) (operands : List SlotValue) (flags : Flags) :
    ((runSteps steps).raiseInScope flags).toList =
      (runSteps steps).toList.modify
        (EnvironmentStep.target steps (.call (.native fused) routine format operands))
          fun environment => { environment with flags := environment.flags.union flags } := by
  have recorded := (runSteps_encloses steps).recorded
  rw [EnvironmentStep.target, EnvironmentStack.raiseInScope]
  cases shape : openings steps with
  | nil =>
    rw [show (runSteps steps).scopes = [] by rw [recorded, openScopes, shape]; rfl]
    exact (List.modify_eq_self (Nat.le_refl _)).symm
  | cons opening outer =>
    have innermost : (runSteps steps).scopes =
        (runSteps opening.before).environments.length :: (runSteps opening.before).scopes := by
      rw [recorded, (runSteps_encloses opening.before).recorded, openScopes, openScopes,
        openings_before_of_cons shape, shape]
      rfl
    have room := (runSteps steps).lt_length (innermost ▸ List.mem_cons_self)
    have within : (runSteps steps).environments.length - 1 -
        (runSteps opening.before).environments.length < (runSteps steps).environments.length := by
      omega
    have place : (runSteps steps).toList.length - 1 - ((runSteps steps).environments.length - 1 -
        (runSteps opening.before).environments.length) =
          (runSteps opening.before).toList.length := by
      simp only [EnvironmentStack.toList, List.length_reverse]
      omega
    rw [innermost]
    dsimp only
    rw [toList_modify (runSteps steps) within, place]
    rfl

/-- A step that leaves all environments in place changes the exceptions of its target, and nothing
else. -/
theorem runSteps_target (step : EnvironmentStep) (steps : List EnvironmentStep)
    (inPlace : step.isInPlace = true) :
    (runSteps (step :: steps)).toList =
      (runSteps steps).toList.modify (step.target steps) fun environment =>
        { environment with flags := step.flagsAfter environment } := by
  cases step with
  | enter | exit | escape | push => cases inPlace
  | raise flags => exact toList_modifyTop (runSteps steps) rfl
  | clear flags => exact toList_modifyTop (runSteps steps) rfl
  | test flags => exact (List.modify_id _ (runSteps steps).toList).symm
  | call kind routine format operands =>
    rw [runSteps, EnvironmentStack.step_call]
    cases kind with
    | reference => exact toList_modifyTop (runSteps steps) rfl
    -- The mode of the target need not be that of the innermost environment, but is disregarded.
    | native fused => exact toList_raiseInScope steps fused routine format operands _

/-- **Scopes restore the environments.** After every run of steps: there is an environment; entering
a scope adds a fresh one with the mode that is asked for; leaving scopes, by an exit or by a fault,
gives back the stack on which the outermost of them was entered; below the environment of an open
scope everything is as it was when the scope was entered, and the scope has its mode; every other
step changes the exceptions of its target, to those that it has to leave there, and nothing else. -/
theorem scopes_restore (steps : List EnvironmentStep) :
    (runSteps steps).toList ≠ [] ∧
    (∀ mode,
      (runSteps (.enter mode :: steps)).toList = (runSteps steps).toList ++ [⟨mode, .none⟩]) ∧
    (∀ environment,
      (runSteps (.push environment :: steps)).toList = (runSteps steps).toList ++ [environment]) ∧
    runSteps (.exit :: steps) = runSteps (beforeClosed 1 steps) ∧
    (∀ levels, runSteps (.escape levels :: steps) = runSteps (beforeClosed levels steps)) ∧
    (∀ opening ∈ openings steps, ∃ flags above, (runSteps steps).toList =
      (runSteps opening.before).toList ++ ⟨opening.mode, flags⟩ :: above) ∧
    (∀ step : EnvironmentStep, step.isInPlace → (runSteps (step :: steps)).toList =
      (runSteps steps).toList.modify (step.target steps) fun environment =>
        { environment with flags := step.flagsAfter environment }) := by
  refine ⟨?_, fun mode => ?_, fun environment => ?_, ?_, fun levels => ?_,
    fun opening => runSteps_below, fun step => runSteps_target step steps⟩
  · simpa [EnvironmentStack.toList] using
      List.ne_nil_of_length_pos (runSteps steps).length_pos
  · exact List.reverse_cons
  · exact List.reverse_cons
  · rw [runSteps, EnvironmentStack.step_exit]
    exact leave_runSteps 1 steps
  · rw [runSteps, EnvironmentStack.step_escape]
    exact leave_runSteps levels steps

/-- A fault crosses two scopes, in each of which an environment was pushed and left. Before that, an
invalid machine operation is told to the inner scope, past what was pushed there, and an invalid
reference operation to what was pushed. What is raised stays raised until it is cleared. -/
theorem scopes_restore_nested :
    runSteps [.escape 2, .push {}, .enter .down, .push {}, .enter .up, .raise .all] =
        runSteps [.raise .all] ∧
      (∃ flags above, (runSteps [.push {}, .enter .down, .push {}, .enter .up]).toList =
        [({} : Environment)] ++ ⟨.up, flags⟩ :: above) ∧
      (runSteps [.call .native .sqrt Format.single [.float 0xbf800000], .push {}, .enter .down,
        .push {}, .enter .up]).toList =
          [{}, ⟨.up, .none⟩, {}, ⟨.down, { invalid := true }⟩, {}] ∧
      (runSteps [.call .reference .sqrt Format.single [.float 0xbf800000], .push {}, .enter .down,
        .push {}, .enter .up]).toList =
          [{}, ⟨.up, .none⟩, {}, ⟨.down, .none⟩, ⟨.nearestEven, { invalid := true }⟩] ∧
      (runSteps [.raise { overflow := true }, .test .all, .raise { invalid := true },
        .enter .up]).toList = [{}, ⟨.up, { invalid := true, overflow := true }⟩] ∧
      (runSteps [.clear { invalid := true }, .raise { invalid := true, overflow := true },
        .enter .up]).toList = [{}, ⟨.up, { overflow := true }⟩] := by
  refine ⟨?_, ?_, ?_, ?_, ?_, ?_⟩
  · exact (scopes_restore [.push {}, .enter .down, .push {}, .enter .up, .raise .all]).2.2.2.2.1 2
  · exact (scopes_restore [.push {}, .enter .down, .push {}, .enter .up]).2.2.2.2.2.1
      ⟨.up, []⟩ (by simp [openings])
  · exact (scopes_restore [.push {}, .enter .down, .push {}, .enter .up]).2.2.2.2.2.2
      (.call .native .sqrt Format.single [.float 0xbf800000]) rfl
  · exact (scopes_restore [.push {}, .enter .down, .push {}, .enter .up]).2.2.2.2.2.2
      (.call .reference .sqrt Format.single [.float 0xbf800000]) rfl
  · exact (scopes_restore [.test .all, .raise { invalid := true }, .enter .up]).2.2.2.2.2.2
      (.raise { overflow := true }) rfl
  · exact (scopes_restore [.raise { invalid := true, overflow := true },
      .enter .up]).2.2.2.2.2.2 (.clear { invalid := true }) rfl

end LibmAudit
