/-
**Tables of test vectors.**

A table holds inputs and expected outputs of one routine in one format. A row has the expected
outputs first and the inputs after them; an output that is not specified is left open.

* `Vector`: one decoded row.
* `Table.ofRows`: decodes all rows, or names the first bad one.
-/

import LibmAudit.Format.Context
import LibmAudit.Format.Image
import LibmAudit.Library.Basic
import LibmAudit.Literal

namespace LibmAudit

/-- A decoded row: its position, the inputs and the expected outputs. -/
structure Vector where
  index : Nat
  inputs : List SlotValue
  expected : List (Option SlotValue)
deriving DecidableEq

/-- An operand as a function under test gets it: a float as its image in memory. -/
def SlotValue.argument (format : Format) : SlotValue → SlotValue
  | .float pattern => .float (format.imageOf pattern)
  | .int value => .int value

/-- The arguments for a function under test. -/
def Vector.arguments (format : Format) (vector : Vector) : List SlotValue :=
  vector.inputs.map (SlotValue.argument format)

/-- Decoded rows for one routine in one format. -/
structure Table where
  routine : Routine
  context : Context
  name : String
  vectors : List Vector

namespace Table

/-- The name of a table that is given none. -/
def defaultName (routine : Routine) (format : Format) : String :=
  routine.name ++ "/" ++ format.name

/-- Decodes a literal for a slot. -/
def decodeSlot (format : Format) (slot : Slot) (literal : Value) : Except Fault SlotValue :=
  match slot with
  | .float => (format.decode literal).map .float
  | .int => (decodeInteger literal).map .int

/-- Decodes an expected output, which may be left open. -/
def decodeExpected (format : Format) (slot : Slot) (literal : Value) :
    Except Fault (Option SlotValue) :=
  match literal with
  | .none => .ok none
  | literal => (decodeSlot format slot literal).map some

/-- Decodes an input, which must be there. -/
def decodeInput (format : Format) (slot : Slot) (literal : Value) : Except Fault SlotValue :=
  match literal with
  | .none => .error .missingInput
  | literal => decodeSlot format slot literal

/-- Decodes literals for several slots in their order. -/
def decodeAll {α : Type} (decode : Slot → Value → Except Fault α) :
    List Slot → List Value → Except Fault (List α)
  | slot :: slots, literal :: literals => do
    let value ← decode slot literal
    return value :: (← decodeAll decode slots literals)
  | _, _ => .ok []

/-- Decodes the entries of a row. -/
def decodeEntries (format : Format) (shape : Shape) (index : Nat) (entries : List Value) :
    Except Fault Vector := do
  let outputs := shape.outputs.length
  let expected ← decodeAll (decodeExpected format) shape.outputs (entries.take outputs)
  let inputs ← decodeAll (decodeInput format) shape.inputs (entries.drop outputs)
  return ⟨index, inputs, expected⟩

/-- Decodes a row. -/
def decodeRow (routine : Routine) (format : Format) (index : Nat) (row : Value) :
    Except Fault Vector :=
  let shape := routine.shape
  match row with
  | .tuple entries =>
    if entries.length ≠ shape.width then
      .error (.rowWidth routine.name shape.arity shape.outputs.length entries.length)
    else decodeEntries format shape index entries
  | row => refuse (.rowNotSequence row)

/-- Completes what is wrong in a row by the name of the table and the position of the row. -/
def located (name : String) (index : Nat) (fault : Fault) : Fault :=
  if fault.category.isRowFault then .inRow name index fault else fault

/-- Decodes rows from a position on. -/
def decodeRows (routine : Routine) (format : Format) (name : String) :
    Nat → List Value → Except Fault (List Vector)
  | _, [] => .ok []
  | index, row :: rest => do
    let vector ← (decodeRow routine format index row).mapError (located name index)
    return vector :: (← decodeRows routine format name (index + 1) rest)

/-- A table from its rows. -/
def ofRows (routine : Routine) (context : Context) (rows : List Value) (name : Option String) :
    Except Fault Table :=
  let format := context.format
  let name := name.getD (defaultName routine format)
  if format.carrier?.isNone then .error (.noTypeForTable format.name)
  else (decodeRows routine format name 0 rows).map (⟨routine, context, name, ·⟩)

/-- The text of a table. -/
def text (table : Table) : String :=
  "Table(" ++ table.routine.name ++ ", " ++ table.context.text ++ ", <" ++
    toString table.vectors.length ++ " rows>)"

end Table

end LibmAudit
