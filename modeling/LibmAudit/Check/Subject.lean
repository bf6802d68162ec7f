/-
**Functions under test.**

A table is run against a routine of a library, or against results that are given beforehand.

* `Subject`: the two.
* `Subject.runOn`: the results of a function under test on the vectors of a table, in their order,
  with the exceptions that its calls raise.
-/

import LibmAudit.Check.Verdict
import LibmAudit.Library.Choice

namespace LibmAudit

/-! ## Routines of a library -/

/-- An output as a result: a number of the machine type, or an integer. -/
def SlotValue.toValue (format : Format) : SlotValue → Value
  | .float pattern =>
    match format.carrier? with
    | some carrier => .scalar carrier pattern
    | none => .bits pattern
  | .int value => .int value

/-- Several outputs are a tuple, a single one stands for itself. -/
def Response.toValue (format : Format) (response : Response) : Value :=
  match response.outputs with
  | [output] => output.toValue format
  | outputs => .tuple (outputs.map (SlotValue.toValue format))

/-- What a routine of a library gives for the operands of a vector. -/
def LibraryKind.callOn (kind : LibraryKind) (routine : Routine) (format : Format) (mode : Mode)
    (vector : Vector) : Except Fault Response := do
  kind.call routine format mode (← kind.fitOperands routine format vector.inputs)

/-! ## Subjects -/

/-- A function under test. -/
inductive Subject
  /-- A routine of a library. -/
  | library (kind : LibraryKind) (routine : Routine)
  /-- The results of the calls, whatever the operands. -/
  | scripted (results : List (Except Fault Value))

/-- The results of a function under test, and the exceptions that its calls raise. -/
structure Performance where
  results : List (Except Fault Value)
  flags : Flags := .none

/-- The exceptions of a call that gives something. -/
def raisedBy : Except Fault Response → Flags
  | .ok response => response.flags
  | .error _ => .none

namespace Subject

/-- The results of a function under test on the vectors of a table. -/
def runOn (subject : Subject) (table : Table) (mode : Mode) : Except Fault Performance :=
  match subject with
  | scripted results => .ok ⟨results, .none⟩
  | library kind routine => do
    let format := table.context.format
    kind.lookup routine format
    let responses := table.vectors.map (kind.callOn routine format mode)
    return ⟨responses.map fun response => response.map (Response.toValue format),
      responses.foldl (fun flags response => flags.union (raisedBy response)) .none⟩

end Subject

end LibmAudit
