/-
**Running a table against a function.**

* `Failure`: one output that is not accepted.
* `Verdict`: the account of a run.
* `checkFloat`, `checkInteger`: the check of one output.
* `Table.run`: checks the results of a function under test, one for each vector.
-/

import LibmAudit.Check.Distance
import LibmAudit.Check.Special
import LibmAudit.Check.Table
import LibmAudit.Policy
import LibmAudit.Value.Conversion

namespace LibmAudit

/-- The kinds of failure. -/
inductive FailureKind
  | tolerance
  | special
  | sign
  | integer
deriving DecidableEq, Repr

/-- The name of a kind of failure. -/
def FailureKind.name : FailureKind → String
  | tolerance => "TOLERANCE"
  | special => "SPECIAL"
  | sign => "SIGN"
  | integer => "INTEGER"

/-- One output that is not accepted. -/
structure Failure where
  index : Nat
  output : Nat
  inputs : List SlotValue
  expected : SlotValue
  actual : Option SlotValue
  kind : FailureKind
  distance : Option Distance
  reason : String
deriving DecidableEq

/-- The account of a run. -/
structure Verdict where
  routine : Routine
  context : Context
  ran : Nat
  failures : List Failure
  maxUlps : Nat
  mode : Mode
  policy : Policy

namespace Verdict

/-- The number of vectors with a failing output. -/
def failed (verdict : Verdict) : Nat :=
  (verdict.failures.map Failure.index).eraseDups.length

/-- Whether no output fails. -/
def passed (verdict : Verdict) : Bool := verdict.failed == 0

/-- The text of a verdict. -/
def text (verdict : Verdict) : String :=
  "Verdict(fn=" ++ verdict.routine.name ++ ", ctx=" ++ verdict.context.text ++ ", ran=" ++
    toString verdict.ran ++ ", failed=" ++ toString verdict.failed ++ ", max_ulps=" ++
    toString verdict.maxUlps ++ ", ambient_rm=" ++ verdict.mode.name ++ ")"

end Verdict

/-! ## One output -/

/-- What the check of an output finds: why it is not accepted, and the distance if it was
measured. -/
structure Finding where
  kind : FailureKind
  distance : Option Distance
  reason : String

/-- The finding on a measured distance. -/
def judgeDistance (policy : Policy) (distance : Distance) : Except Fault (Option Finding) :=
  match distance with
  | .unbounded => .ok (some ⟨.sign, some distance, "result has the wrong sign"⟩)
  | .steps count =>
    if distance.within policy.maxUlps.count then .ok none
    else if isWritable policy.maxUlps.count then
      .ok (some ⟨.tolerance, some distance,
        toString count ++ " ulps, accepted " ++ policy.maxUlps.text⟩)
    else .error .integerTooLongToWrite

/-- The distance of two patterns, if it has to be measured. -/
def measured (format : Format) (policy : Policy) (expected actual : Nat) :
    Except Fault (Option Distance) :=
  match format.compareSpecial expected actual policy.signedZero policy.flushSubnormals with
  | .deferred => (format.distance expected actual).map some
  | _ => .ok none

/-- The finding on a float output. -/
def judgeFloat (format : Format) (policy : Policy) (expected actual : Nat) :
    Except Fault (Option Finding) :=
  match format.compareSpecial expected actual policy.signedZero policy.flushSubnormals with
  | .agree => .ok none
  | .disagree cause => .ok (some ⟨.special, none, cause.reason⟩)
  | .deferred => do judgeDistance policy (← format.distance expected actual)

/-- The finding on an integer output. -/
def judgeInteger (routine : Routine) (expected : Int) (result : Value) :
    Except Fault (Option Finding) :=
  match result.toInteger? with
  | none =>
    if result.integers.all isWritable then
      .ok (some ⟨.integer, none, "not an integer: " ++ result.literal⟩)
    else .error .integerTooLongToWrite
  | some actual =>
    if routine.integerMatches expected actual then .ok none
    else if isWritable expected && isWritable actual then
      .ok (some ⟨.integer, none,
        "expected " ++ toString expected ++ ", got " ++ toString actual⟩)
    else .error .integerTooLongToWrite

/-- What a run has found so far. -/
structure Tally where
  failures : List Failure := []
  maxUlps : Nat := 0

namespace Tally

/-- Adds a finding. -/
def add (tally : Tally) (vector : Vector) (output : Nat) (expected : SlotValue)
    (actual : Option SlotValue) : Option Finding → Tally
  | none => tally
  | some finding =>
    { tally with failures := tally.failures ++ [⟨vector.index, output, vector.inputs, expected,
        actual, finding.kind, finding.distance, finding.reason⟩] }

/-- Takes a measured distance into account. -/
def observe (tally : Tally) : Option Distance → Tally
  | some (.steps count) => { tally with maxUlps := max tally.maxUlps count }
  | _ => tally

end Tally

/-- Checks one output against what is expected. -/
def checkOutput (table : Table) (policy : Policy) (vector : Vector) (output : Nat)
    (expected : SlotValue) (result : Value) (tally : Tally) : Except Fault Tally :=
  match expected with
  | .float pattern => do
    let format := table.context.format
    let actual ← result.toFormat format
    let distance ← measured format policy pattern actual
    let finding ← judgeFloat format policy pattern actual
    return (tally.observe distance).add vector output expected (some (.float actual)) finding
  | .int value => do
    let finding ← judgeInteger table.routine value result
    return tally.add vector output expected (result.toInteger?.map .int) finding

/-! ## All outputs -/

/-- The outputs that a result stands for. A single output is the result as it is; several are the
entries of a tuple, or the characters of a text. -/
def unpack (routine : Routine) (result : Value) : Except Fault (List Value) :=
  let count := routine.shape.outputs.length
  let counted (outputs : List Value) : Except Fault (List Value) :=
    if outputs.length = count then .ok outputs
    else .error (.resultWidth routine.name count outputs.length)
  if count = 1 then .ok [result]
  else
    match result with
    | .tuple items => counted items
    | .text characters => counted (characters.toList.map fun char => .text (String.singleton char))
    | result => refuse (.resultNotSequence routine.name count result)

/-- Checks the outputs from a number on: those that are checked and whose expectation is not
open. -/
def checkOutputs (table : Table) (policy : Policy) (vector : Vector) :
    Nat → List Bool → List (Option SlotValue) → List Value → Tally → Except Fault Tally
  | output, checked :: flags, expected :: others, result :: results, tally => do
    let tally ←
      match checked, expected with
      | true, some expected => checkOutput table policy vector output expected result tally
      | _, _ => pure tally
    checkOutputs table policy vector (output + 1) flags others results tally
  | _, _, _, _, tally => .ok tally

/-- Checks the results for the vectors, one for each. -/
def checkVectors (table : Table) (policy : Policy) :
    List Vector → List (Except Fault Value) → Tally → Except Fault Tally
  | vector :: vectors, result :: results, tally => do
    let outputs ← unpack table.routine (← result)
    let tally ← checkOutputs table policy vector 0 policy.checked vector.expected outputs tally
    checkVectors table policy vectors results tally
  | _, _, tally => .ok tally

namespace Table

/-- Checks the results of a function under test in a rounding mode. Failures are recorded; what the
function raises, and what is no result of its shape, ends the run. -/
def run (table : Table) (policy : Policy) (mode : Mode) (results : List (Except Fault Value)) :
    Except Fault Verdict :=
  let outputs := table.routine.shape.outputs.length
  if policy.checked.length ≠ outputs then
    .error (.policyWidth table.routine.name policy.checked.length outputs)
  else do
    let tally ← checkVectors table policy table.vectors results {}
    return ⟨table.routine, table.context, min table.vectors.length results.length, tally.failures,
      tally.maxUlps, mode, policy⟩

/-- What is said before a run when the policy expects another mode. -/
def warning (table : Table) (policy : Policy) (mode : Mode) : String :=
  match policy.rounding with
  | some expected =>
    if expected = mode then ""
    else
      "Warning: " ++ table.name ++ " expects rounding mode " ++ expected.name ++
        ", running under " ++ mode.name ++ "\n"
  | none => ""

end Table

end LibmAudit
