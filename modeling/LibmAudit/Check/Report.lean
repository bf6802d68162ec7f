/-
**Verdicts as text.**

* `Verdict.summary`: the line that says how a run ended.
* `Failure.describe`: one line for an output that is not accepted, with enough detail to reproduce
  it.
* `Verdict.report`: the summary and the failures, all of them or only the first.

An integer operand of more than 4300 digits cannot be written, and then there is no report.
-/

import LibmAudit.Check.Verdict

namespace LibmAudit

/-- An integer in decimal. -/
def decimalText (value : Int) : Except Fault String :=
  if isWritable value then .ok (toString value) else .error .integerTooLongToWrite

/-- An operand or an output as text: floats in hexadecimal, integers in decimal. -/
def SlotValue.describe (format : Format) : SlotValue → Except Fault String
  | .float pattern => .ok (format.render pattern)
  | .int value => decimalText value

/-- An output as text; two dashes stand for one that is no value of its slot. -/
def describeActual (format : Format) : Option SlotValue → Except Fault String
  | some value => value.describe format
  | none => .ok "--"

/-- The name of a kind of failure inside a sentence. -/
def FailureKind.word : FailureKind → String
  | tolerance => "tolerance"
  | special => "special"
  | sign => "sign"
  | integer => "integer"

/-- The number of an output in brackets, when there are several. -/
def outputMark (outputs output : Nat) : String :=
  if 1 < outputs then "[" ++ toString output ++ "]" else ""

/-- One line for an output that is not accepted. -/
def Failure.describe (failure : Failure) (routine : Routine) (format : Format) :
    Except Fault String := do
  let operands ← failure.inputs.mapM (SlotValue.describe format)
  let expected ← failure.expected.describe format
  let actual ← describeActual format failure.actual
  return "  #" ++ toString failure.index ++ " " ++ routine.name ++ "(" ++
    ", ".intercalate operands ++ ")" ++
    outputMark routine.shape.outputs.length failure.output ++ ": expected " ++ expected ++
    ", got " ++ actual ++ ": " ++ failure.kind.word ++ ", " ++ failure.reason

namespace Verdict

/-- How a run ended. -/
def summary (verdict : Verdict) : String :=
  verdict.routine.name ++ " " ++ verdict.context.format.name ++ ": " ++ toString verdict.ran ++
    " run, " ++ toString verdict.failed ++ " failed, max " ++ toString verdict.maxUlps ++
    " ulps [" ++ (if verdict.passed then "ok" else "FAILED") ++ "]"

/-- The failures that a report shows. -/
def shownFailures (verdict : Verdict) (every : Bool) : List Failure :=
  if every then verdict.failures else verdict.failures.take 1

/-- The lines of a report. -/
def report (verdict : Verdict) (every : Bool) : Except Fault (List String) := do
  let failures ← (verdict.shownFailures every).mapM fun failure =>
    failure.describe verdict.routine verdict.context.format
  return verdict.summary :: failures

end Verdict

/-- Lines as one text, each of them ended. -/
def textOfLines (lines : List String) : String :=
  String.join (lines.map (· ++ "\n"))

end LibmAudit
