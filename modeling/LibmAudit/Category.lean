/-
**Families of faults.**

* `Category`: the families, by what is at fault.
* `Category.isRowFault`: the families that a table completes with the row.
-/

namespace LibmAudit

/-- The families of faults. -/
inductive Category
  /-- A literal that does not decode. -/
  | literal
  /-- A table row of the wrong form. -/
  | row
  /-- A result with the wrong number of outputs. -/
  | shape
  /-- A format that is not available. -/
  | format
  /-- A function that a library does not offer. -/
  | function
  /-- A value out of its domain. -/
  | value
  /-- A value of the wrong kind. -/
  | type
  /-- A position out of range. -/
  | index
  /-- A key that is not there. -/
  | key
  /-- A method that is not there. -/
  | attribute
  /-- A text that breaks the grammar of what it describes. -/
  | grammar
  /-- A number too large to represent. -/
  | overflow
  /-- A number too large to store. -/
  | memory
  /-- A multiprecision result that has to be exact and is not. -/
  | inexactResult
  /-- What a function under test raises by itself. -/
  | raised
deriving DecidableEq, Repr

/-- The families that a table completes with its name and the row. -/
def Category.isRowFault (category : Category) : Bool :=
  category = .literal || category = .row

end LibmAudit
