/-
**Choosing a library.**

* `LibraryKind.lookup`: whether a library has a routine for a format.
* `LibraryKind.call`: a routine of a library in a rounding mode.
* `LibraryKind.raiseIn`: where the exceptions of a call go.
-/

import LibmAudit.Environment
import LibmAudit.Library.Operands
import LibmAudit.Native.Library

namespace LibmAudit.LibraryKind

/-- Whether a library has a routine for a format. -/
def lookup (kind : LibraryKind) (routine : Routine) (format : Format) : Except Fault Unit :=
  match kind with
  | .reference => Reference.lookup format
  | .native fused => Native.lookup fused routine format

/-- A routine of a library in a rounding mode, which the native library disregards. -/
def call (kind : LibraryKind) (routine : Routine) (format : Format) (mode : Mode)
    (operands : List SlotValue) : Except Fault Response := do
  kind.checkCount routine operands.length
  match kind with
  | .reference => Reference.call routine format mode operands
  | .native _ => Native.call routine format operands

/-- The exceptions of a reference call are raised in the innermost environment, those of a native
call in the environment of the innermost scope. -/
def raiseIn (kind : LibraryKind) (stack : EnvironmentStack) (flags : Flags) : EnvironmentStack :=
  match kind with
  | .reference => stack.raise flags
  | .native _ => stack.raiseInScope flags

end LibmAudit.LibraryKind
