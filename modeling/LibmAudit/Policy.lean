/-
**How close is close enough.**

* `Tolerance`: the largest accepted distance.
* `Policy`: which outputs of a routine are compared, and what is accepted of them.
* `Policy.default`: what is accepted of a routine unless something else is said.
* `Policy.ofFields`, `Policy.change`: a policy from named fields, and one with some fields changed.
* `Policy.agrees`: whether two policies accept the same.
* `integersMatch`: whether an integer output agrees.
-/

import LibmAudit.Routine

namespace LibmAudit

-- Powers are the built-in ones, whatever else is imported.
attribute [local instance (high)] instPowNat

/-- The largest accepted distance. A truth value counts as one or zero, and is shown as it is
given. -/
inductive Tolerance
  | steps (count : Nat)
  | truth (value : Bool)
deriving DecidableEq, Repr

namespace Tolerance

/-- The number of steps that are accepted. -/
def count : Tolerance → Nat
  | steps count => count
  | truth value => value.toNat

/-- The text of a tolerance. -/
def text : Tolerance → String
  | steps count => toString count
  | truth value => boolLiteral value

/-- The tolerance that a datum stands for. -/
def ofDatum : Datum → Except Fault Tolerance
  | .int value =>
    if value < 0 then refuse (.negativeTolerance value) else .ok (.steps value.toNat)
  | .bool value => .ok (.truth value)
  | datum => .error (.notComparable datum.kindName)

/-- The datum that stands for a tolerance. -/
def toDatum : Tolerance → Datum
  | steps count => .int count
  | truth value => .bool value

end Tolerance

/-- What is accepted of the outputs of a routine. -/
structure Policy where
  /-- The largest accepted distance of a float output. -/
  maxUlps : Tolerance
  /-- For each output whether it is compared. -/
  checked : List Bool
  /-- Zeros must have the expected sign. -/
  signedZero : Bool := false
  /-- The mode in which expected values were computed, if they depend on it. -/
  rounding : Option Mode := some .nearestEven
  /-- Where a subnormal value is expected, a zero of its sign is accepted. -/
  flushSubnormals : Bool := false
deriving DecidableEq, Repr

namespace Policy

/-- What is accepted of a routine unless something else is said. -/
def default (routine : Routine) : Policy where
  maxUlps := .steps routine.category.maxUlps
  checked := routine.shape.outputs.map fun _ => true
  signedZero := routine.isSignPreserving
  rounding := if routine.isModeSensitive then some .nearestEven else none

/-! ## Text -/

/-- The text of a policy. -/
def text (policy : Policy) : String :=
  "Policy(max_ulps=" ++ policy.maxUlps.text ++ ", checked=" ++
    tupleText (policy.checked.map boolLiteral) ++ ", signed_zero=" ++
    boolLiteral policy.signedZero ++ ", rounding=" ++ (policy.rounding.elim "None" Mode.name) ++
    ", flush_subnormals=" ++ boolLiteral policy.flushSubnormals ++ ")"

/-! ## Fields -/

/-- The names of the fields; the first two have no default. -/
def fieldNames : List String :=
  ["max_ulps", "checked", "signed_zero", "rounding", "flush_subnormals"]

/-- The items that a datum holds in a row, each as a truth value. -/
def truths : Datum → Except Fault (List Bool)
  | .list items => .ok (items.map Datum.isTruthy)
  | .text value => .ok (value.toList.map fun _ => true)
  | .map entries => .ok (entries.map fun entry => !entry.1.isEmpty)
  | datum => .error (.notIterable datum.kindName)

/-- The mode that a datum stands for, by its identifier; nothing stands for no mode. -/
def modeOf : Datum → Except Fault (Option Mode)
  | .null => .ok none
  | datum => (Mode.identify datum).map some

/-- The mode that fields choose. -/
def modeOfFields (fields : List (String × Datum)) (fallback : Option Mode) :
    Except Fault (Option Mode) :=
  match fields.lookup "rounding" with
  | some datum => modeOf datum
  | none => .ok fallback

/-- A policy from all its fields but the mode. -/
def build (fields : List (String × Datum)) (rounding : Option Mode) : Except Fault Policy := do
  let item (name : String) (fallback : Datum) : Datum := (fields.lookup name).getD fallback
  let maxUlps ← Tolerance.ofDatum (item "max_ulps" .null)
  let checked ← truths (item "checked" .null)
  return {
    maxUlps, checked, rounding
    signedZero := (item "signed_zero" (.bool false)).isTruthy
    flushSubnormals := (item "flush_subnormals" (.bool false)).isTruthy }

/-- The name of what stands for the policy itself, which is no field. -/
def selfName : String := "self"

/-- What is wrong with a name that is no field. -/
def problemOf (name : String) : ArgumentProblem :=
  if name = selfName then .repeated name else .unexpected name

/-- A policy from named fields. -/
def ofFields (fields : List (String × Datum)) : Except Fault Policy := do
  let rounding ← modeOfFields fields (some .nearestEven)
  match fields.find? fun field => !fieldNames.contains field.1 with
  | some field => throw (.argument "Policy.__init__" (problemOf field.1))
  | none =>
    match (fieldNames.take 2).filter fun name => (fields.lookup name).isNone with
    | [] => build fields rounding
    | names => throw (.argument "Policy.__init__" (.missing names))

/-- The fields of a policy but the mode. -/
def toFields (policy : Policy) : List (String × Datum) := [
  ("max_ulps", policy.maxUlps.toDatum), ("checked", .list (policy.checked.map .bool)),
  ("signed_zero", .bool policy.signedZero), ("flush_subnormals", .bool policy.flushSubnormals)]

/-- A policy with some fields changed. -/
def change (policy : Policy) (changes : List (String × Datum)) : Except Fault Policy := do
  let rounding ← modeOfFields changes policy.rounding
  if (changes.lookup selfName).isSome then
    throw (.argument "Policy.let" (.repeated selfName))
  match changes.find? fun field => !fieldNames.contains field.1 with
  | some field => throw (.unknownPolicyField field.1)
  | none => build (setProperties policy.toFields changes) rounding

/-! ## Comparison -/

/-- Whether two policies accept the same. A tolerance counts by its number of steps. -/
def agrees (first second : Policy) : Bool :=
  first.maxUlps.count = second.maxUlps.count && { first with maxUlps := second.maxUlps } = second

end Policy

/-! ## Integer outputs -/

/-- How many low bits of the quotient of `remquo` are specified. -/
def quotientBits : Nat := 3

/-- Whether two quotients agree in their low bits, and in their sign if neither is zero. -/
def quotientsMatch (expected actual : Int) : Bool :=
  expected.natAbs % 2 ^ quotientBits == actual.natAbs % 2 ^ quotientBits &&
    (expected == 0 || actual == 0 || decide (expected < 0) == decide (actual < 0))

/-- Whether an integer output of a routine agrees. -/
def Routine.integerMatches (routine : Routine) (expected actual : Int) : Bool :=
  match routine with
  | .remquo => quotientsMatch expected actual
  | _ => expected == actual

/-- Whether the output of this number agrees; a negative number counts from the end. -/
def Routine.integersMatch (routine : Routine) (index expected actual : Int) :
    Except Fault Bool :=
  let outputs := routine.shape.outputs
  let position := if index < 0 then index + outputs.length else index
  let limit : Int := (2 ^ (63 : Nat) : Nat)
  if index < -limit ∨ limit ≤ index then .error .positionTooLarge
  else if position < 0 then .error .tupleIndex
  else
    match outputs[position.toNat]? with
    | some .int => .ok (routine.integerMatches expected actual)
    | some .float => .error (.outputNotInteger routine.name index)
    | none => .error .tupleIndex

end LibmAudit
