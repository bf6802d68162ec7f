/-
**Raising exceptions on a stack.**

* `raise_raise`, `raise_none`: exceptions raised one after the other are raised together.
* `current_raise`: what the innermost environment is then.
* `LibraryKind.raiseIn_none`: where nothing is raised, nothing changes.
-/

import LibmAudit.Library.Step
import Mathlib

namespace LibmAudit

namespace Environment

theorem raise_raise (environment : Environment) (first second : Flags) :
    (environment.raise first).raise second = environment.raise (first.union second) := by
  simp [raise, Flags.union_assoc]

@[simp]
theorem raise_none (environment : Environment) : environment.raise .none = environment := by
  simp [raise, Flags.union_none]

end Environment

namespace EnvironmentStack

variable (stack : EnvironmentStack) (flags : Flags)

@[simp]
theorem scopes_modify (position : Nat) (change : Environment → Environment) :
    (stack.modify position change).scopes = stack.scopes := rfl

@[simp]
theorem environments_modify (position : Nat) (change : Environment → Environment) :
    (stack.modify position change).environments = stack.environments.modify position change := rfl

theorem raise_raise (first second : Flags) :
    (stack.raise first).raise second = stack.raise (first.union second) := by
  ext1
  · simp only [raise, environments_modify, List.modify_modify_eq]
    congr 1
    funext environment
    exact environment.raise_raise first second
  · rfl

@[simp]
theorem raise_none : stack.raise .none = stack := by
  ext1
  · simp only [raise, environments_modify, Environment.raise_none]
    exact List.modify_id 0 stack.environments
  · rfl

theorem exit?_of_nil (closed : stack.scopes = []) : stack.exit? = none := by
  rw [exit?]
  split
  · rfl
  · simp_all

theorem exit?_of_cons {depth : Nat} {outer : List Nat} (entered : stack.scopes = depth :: outer) :
    ∃ after, stack.exit? = some after ∧ after.scopes = outer ∧
      after.environments = stack.environments.drop (stack.environments.length - depth) := by
  rw [exit?]
  split
  · simp_all
  · obtain ⟨rfl, rfl⟩ := List.cons.inj (entered.symm.trans ‹_›)
    exact ⟨_, rfl, rfl, rfl⟩

/-- A stack is its innermost environment on top of others. -/
theorem exists_environments_eq :
    ∃ below, stack.environments = stack.current :: below :=
  ⟨stack.environments.tail, (List.cons_head_tail _).symm⟩

theorem current_of_environments {top : Environment} {below : List Environment}
    (shape : stack.environments = top :: below) : stack.current = top := by
  simp [current, shape]

theorem environments_raise {top : Environment} {below : List Environment}
    (shape : stack.environments = top :: below) :
    (stack.raise flags).environments = top.raise flags :: below := by
  simp [raise, shape]

@[simp]
theorem raiseInScope_none : stack.raiseInScope .none = stack := by
  rw [raiseInScope]
  split
  · rfl
  · ext1
    · simp only [environments_modify, Environment.raise_none]
      exact List.modify_id _ stack.environments
    · rfl

theorem current_raise : (stack.raise flags).current = stack.current.raise flags := by
  obtain ⟨below, shape⟩ := stack.exists_environments_eq
  exact current_of_environments _ (stack.environments_raise flags shape)

end EnvironmentStack

theorem LibraryKind.raiseIn_none (kind : LibraryKind) (stack : EnvironmentStack) :
    kind.raiseIn stack .none = stack := by
  cases kind with
  | reference => exact stack.raise_none
  | native _ => exact stack.raiseInScope_none

end LibmAudit
