/-
**Floating-point environments.**

* `Environment`: a rounding mode with the exceptions raised so far.
* `EnvironmentStack`: the environments in force, and for each open scope how many there were when it
  was entered. A scope is entered with a fresh environment; bare environments may be pushed on top
  of it, and leaving the scope cuts the stack back to the recorded number.
* `EnvironmentStack.current`: the innermost environment. Raising and clearing act on it, and what a
  machine operation raises goes to the environment of the innermost scope instead.

The recorded numbers decrease from the innermost scope outward and none of them is zero. A stack is
made with a proof of that, so that leaving a scope always finds the environments it has to keep, and
the stack is never empty.
-/

import LibmAudit.Flags
import LibmAudit.Mode

namespace LibmAudit

/-- A rounding mode with the exceptions raised so far. -/
structure Environment where
  mode : Mode := .nearestEven
  flags : Flags := .none
deriving DecidableEq

namespace Environment

/-- Raises exceptions. -/
def raise (environment : Environment) (flags : Flags) : Environment :=
  { environment with flags := environment.flags.union flags }

/-- Clears exceptions. -/
def clear (environment : Environment) (flags : Flags) : Environment :=
  { environment with flags := environment.flags.clear flags }

/-- The text of an environment. -/
def text (environment : Environment) : String :=
  "FloatEnv(rm=" ++ environment.mode.name ++ ", flags=" ++ environment.flags.text ++ ")"

end Environment

/-- The environments in force, the innermost first. For each open scope, the innermost first,
`scopes` has the number of environments that there were when it was entered. -/
structure EnvironmentStack where
  environments : List Environment := [{}]
  scopes : List Nat := []
  ordered : (environments.length :: (scopes ++ [0])).Pairwise (· > ·) := by decide
deriving DecidableEq

namespace EnvironmentStack

/-- All environments, the outermost first. -/
def toList (stack : EnvironmentStack) : List Environment := stack.environments.reverse

theorem length_pos (stack : EnvironmentStack) : 0 < stack.environments.length :=
  (List.pairwise_cons.mp stack.ordered).1 0 (by simp)

theorem lt_length (stack : EnvironmentStack) {depth : Nat} (recorded : depth ∈ stack.scopes) :
    depth < stack.environments.length :=
  (List.pairwise_cons.mp stack.ordered).1 depth (by simp [recorded])

/-- The innermost environment. -/
def current (stack : EnvironmentStack) : Environment :=
  stack.environments.head (List.ne_nil_of_length_pos stack.length_pos)

/-- Changes one environment; the innermost one has position zero. -/
def modify (stack : EnvironmentStack) (position : Nat) (change : Environment → Environment) :
    EnvironmentStack where
  environments := stack.environments.modify position change
  scopes := stack.scopes
  ordered := by simpa using stack.ordered

/-- Puts a bare environment on top. -/
def push (stack : EnvironmentStack) (environment : Environment) : EnvironmentStack where
  environments := environment :: stack.environments
  scopes := stack.scopes
  ordered :=
    have ⟨below, rest⟩ := List.pairwise_cons.mp stack.ordered
    List.pairwise_cons.mpr ⟨fun depth recorded => Nat.lt_succ_of_lt (below depth recorded), rest⟩

/-- Opens a scope with a fresh environment. -/
def enter (stack : EnvironmentStack) (mode : Mode) : EnvironmentStack where
  environments := ⟨mode, .none⟩ :: stack.environments
  scopes := stack.environments.length :: stack.scopes
  ordered := List.pairwise_cons.mpr ⟨List.forall_mem_cons.mpr ⟨Nat.lt_succ_self _,
    fun depth recorded =>
      Nat.lt_succ_of_lt ((List.pairwise_cons.mp stack.ordered).1 depth recorded)⟩, stack.ordered⟩

/-- Closes the innermost scope, if one is open: as many environments are left as there were when it
was entered. -/
def exit? (stack : EnvironmentStack) : Option EnvironmentStack :=
  match entered : stack.scopes with
  | [] => none
  | depth :: outer => some {
      environments := stack.environments.drop (stack.environments.length - depth)
      scopes := outer
      ordered := by
        have below : depth < stack.environments.length := stack.lt_length (by simp [entered])
        rw [List.length_drop, Nat.sub_sub_self (Nat.le_of_lt below)]
        have ordered := stack.ordered
        rw [entered] at ordered
        exact (List.pairwise_cons.mp ordered).2 }

/-- Closes this many scopes from the innermost one on, or as many as are open. -/
def leave (stack : EnvironmentStack) (levels : Nat) : EnvironmentStack :=
  match levels with
  | 0 => stack
  | levels + 1 =>
    match stack.exit? with
    | none => stack
    | some outer => outer.leave levels

/-- Raises exceptions in the innermost environment. -/
def raise (stack : EnvironmentStack) (flags : Flags) : EnvironmentStack :=
  stack.modify 0 fun environment => environment.raise flags

/-- Clears exceptions of the innermost environment. -/
def clear (stack : EnvironmentStack) (flags : Flags) : EnvironmentStack :=
  stack.modify 0 fun environment => environment.clear flags

/-- Raises the exceptions of a machine operation in the environment of the innermost scope, the one
that went on top when the scope was entered. Outside all scopes they are ignored. -/
def raiseInScope (stack : EnvironmentStack) (flags : Flags) : EnvironmentStack :=
  match stack.scopes with
  | [] => stack
  | depth :: _ =>
    stack.modify (stack.environments.length - 1 - depth) fun environment =>
      environment.raise flags

/-! ## What the operations leave -/

@[ext]
theorem ext {first second : EnvironmentStack}
    (environments : first.environments = second.environments)
    (scopes : first.scopes = second.scopes) : first = second := by
  cases first
  cases second
  simp_all

theorem exit?_enter (stack : EnvironmentStack) (mode : Mode) :
    (stack.enter mode).exit? = some stack := by
  simp [exit?, enter]

theorem current_enter (stack : EnvironmentStack) (mode : Mode) :
    (stack.enter mode).current = ⟨mode, .none⟩ := rfl

end EnvironmentStack

end LibmAudit
