/-
**Calling a library.**

* `SlotValue`: an operand or an output of a routine.
* `Response`: the outputs of a call and the exceptions it raises.
* `LibraryKind`: the two libraries, by name.
-/

import LibmAudit.Format.Round
import LibmAudit.Routine

namespace LibmAudit

/-- An operand or an output. -/
inductive SlotValue
  | float (pattern : Nat)
  | int (value : Int)
deriving DecidableEq, Repr

/-- What a call gives. -/
structure Response where
  outputs : List SlotValue
  flags : Flags := .none

/-- One float output. -/
def Response.ofPattern (pattern : Nat) (flags : Flags := .none) : Response :=
  ⟨[.float pattern], flags⟩

/-- One rounded output with its exceptions. -/
def Response.ofRounded (rounded : Rounded) : Response :=
  ⟨[.float rounded.pattern], rounded.flags⟩

/-- The two libraries: the correctly rounded one, and the one of the machine, which multiplies and
adds in one step if the machine's runtime offers that. -/
inductive LibraryKind
  | reference
  | native (fused : Bool := false)
deriving DecidableEq, Repr

/-- The name of a library. -/
def LibraryKind.name : LibraryKind → String
  | reference => "mpfr"
  | native _ => "numpy"

/-- The library with a name, where the runtime has a fused multiplication or has none. -/
def LibraryKind.ofName? (name : String) (fused : Bool := false) : Option LibraryKind :=
  [reference, native fused].find? fun kind => kind.name == name

/-- The library that a datum names. -/
def LibraryKind.parse (name : Datum) (fused : Bool := false) : Except Fault LibraryKind :=
  findKey (ofName? · fused) name

end LibmAudit
