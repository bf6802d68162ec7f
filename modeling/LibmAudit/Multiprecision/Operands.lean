/-
**Operands of multiprecision operations.**

* `Operation.arity`: how many operands an operation takes.
* `Operation.checkCount`: refuses any other number of them.
-/

import LibmAudit.Fault
import LibmAudit.Multiprecision.Operation

namespace LibmAudit.Operation

/-- The name of an operation. -/
def name (operation : Operation) : String :=
  ((table.find? fun entry => entry.2 = operation).map (·.1)).getD ""

/-- The number of operands. -/
def arity : Operation → Nat
  | fma => 3
  | atan2 | fmod | remainder | add | sub | mul | div | hypot | pow => 2
  | _ => 1

/-- What is wrong with a number of operands when they have names. -/
def namedProblem (names : List String) (given : Nat) : ArgumentProblem :=
  if given < names.length then .missing (names.drop given) else .excess names.length given

/-- The refusal of a number of operands. -/
def refusal (operation : Operation) (given : Nat) : Fault :=
  match operation with
  | lgamma => .argument "_lgamma" (namedProblem ["x"] given)
  | pow => .argument "_pow" (namedProblem ["x", "y"] given)
  | tgamma => .argument "gmpy2.gmpy2.gamma" (.onlyOne given)
  | operation =>
    if operation.arity = 1 then .argument ("gmpy2.gmpy2." ++ operation.name) (.onlyOne given)
    else .argument operation.name (.exactly operation.arity)

/-- Refuses a wrong number of operands. -/
def checkCount (operation : Operation) (given : Nat) : Except Fault Unit :=
  if given = operation.arity then .ok () else .error (operation.refusal given)

end LibmAudit.Operation
