/-
**Built-in tables.**

* `builtInRows`: the rows of a routine for a format, which must be at least as wide as the 32-bit
  one.
* `builtInTable`: these rows as a table.
* `inCatalogOrder`: the routines of a selection in the order of the catalog; a routine that is named
  twice stays twice.
-/

import LibmAudit.Check.Table
import LibmAudit.Suite.Rows.Particular

namespace LibmAudit.Suite

/-- Whether a format has at least the precision and the range of the 32-bit one. -/
def isWideEnough (format : Format) : Bool :=
  decide (Format.single.precision ≤ format.precision ∧ Format.single.emax ≤ format.emax)

/-- The rows of a routine for a format. -/
def builtInRows (routine : Routine) (format : Format) : Except Fault (List Row) :=
  if isWideEnough format then .ok (generalRows routine ++ particularRows format routine)
  else .error (.vectorsTooWide format.name)

/-- The table of the built-in rows of a routine. -/
def builtInTable (context : Context) (routine : Routine) : Except Fault Table := do
  let rows ← builtInRows routine context.format
  Table.ofRows routine context (rows.map .tuple) none

/-- The routines of a selection in the order of the catalog. -/
def inCatalogOrder (selection : List Routine) : List Routine :=
  selection.mergeSort Routine.le

/-- The routines with these names in the order of the catalog. -/
def selectRoutines (names : List Datum) : Except Fault (List Routine) :=
  (names.mapM Routine.parse).map inCatalogOrder

/-- The built-in tables of several routines. -/
def builtInTables (context : Context) (routines : List Routine) : Except Fault (List Table) :=
  routines.mapM (builtInTable context)

/-- Every routine has rows. -/
theorem generalRows_ne_nil (routine : Routine) : generalRows routine ≠ [] := by
  cases routine <;> simp [generalRows]

end LibmAudit.Suite
