/-
**Exception flags.**

The five exceptions of IEEE 754 as a set. A set may also carry bits that stand for no exception: an
environment keeps them until it is cleared.

* `Flags.ofCode`, `Flags.code`: the usual encoding, 1 for invalid to 16 for inexact.
* `Flags.union`, `Flags.inter`, `Flags.clear`: what raising, testing and clearing do.
* `Flags.text`: how an environment shows its flags.
-/

namespace LibmAudit

-- Powers are the built-in ones, whatever else is imported.
attribute [local instance (high)] instPowNat

/-- A set of exceptions, with the bits of its code that name none. -/
structure Flags where
  invalid : Bool := false
  divideByZero : Bool := false
  overflow : Bool := false
  underflow : Bool := false
  inexact : Bool := false
  /-- The code divided by 32. -/
  unnamed : Nat := 0
deriving DecidableEq, Repr

namespace Flags

/-- No exception. -/
def none : Flags := {}

/-- The exceptions of either set. -/
def union (first second : Flags) : Flags where
  invalid := first.invalid || second.invalid
  divideByZero := first.divideByZero || second.divideByZero
  overflow := first.overflow || second.overflow
  underflow := first.underflow || second.underflow
  inexact := first.inexact || second.inexact
  unnamed := first.unnamed ||| second.unnamed

/-- The exceptions of both sets. -/
def inter (first second : Flags) : Flags where
  invalid := first.invalid && second.invalid
  divideByZero := first.divideByZero && second.divideByZero
  overflow := first.overflow && second.overflow
  underflow := first.underflow && second.underflow
  inexact := first.inexact && second.inexact
  unnamed := first.unnamed &&& second.unnamed

/-- The exceptions of the first set that are not in the second, and no unnamed bits. -/
def clear (flags cleared : Flags) : Flags where
  invalid := flags.invalid && !cleared.invalid
  divideByZero := flags.divideByZero && !cleared.divideByZero
  overflow := flags.overflow && !cleared.overflow
  underflow := flags.underflow && !cleared.underflow
  inexact := flags.inexact && !cleared.inexact

/-- The set without the inexact exception. -/
def exceptInexact (flags : Flags) : Flags :=
  { flags with inexact := false }

/-- All five exceptions. -/
def all : Flags := ⟨true, true, true, true, true, 0⟩

/-- The set with a nonnegative code. -/
def ofNat (code : Nat) : Flags :=
  ⟨code.testBit 0, code.testBit 1, code.testBit 2, code.testBit 3, code.testBit 4, code / 32⟩

/-- The set with a code. A negative code from `-32` on is read modulo 32, and a lower one modulo the
least power of two above its magnitude. -/
def ofCode (code : Int) : Flags :=
  if 0 ≤ code then ofNat code.toNat
  else if -32 ≤ code then ofNat (32 + code).toNat
  else ofNat (((2 ^ (code.natAbs.log2 + 1) : Nat) : Int) + code).toNat

/-- The sum of the weights of the set. -/
def code (flags : Flags) : Nat :=
  flags.invalid.toNat + 2 * flags.divideByZero.toNat + 4 * flags.overflow.toNat +
    8 * flags.underflow.toNat + 16 * flags.inexact.toNat + 32 * flags.unnamed

/-- The names of the exceptions in the set, in the order of their weights. -/
def names (flags : Flags) : List String :=
  (if flags.invalid then ["INVALID"] else []) ++
    (if flags.divideByZero then ["DIVBYZERO"] else []) ++
    (if flags.overflow then ["OVERFLOW"] else []) ++
    (if flags.underflow then ["UNDERFLOW"] else []) ++
    (if flags.inexact then ["INEXACT"] else [])

/-- The names joined by bars, the sum of the unnamed bits last, then the code. A set that names no
exception shows its code alone. -/
def text (flags : Flags) : String :=
  let shown := flags.names ++ (if flags.unnamed = 0 then [] else [toString (32 * flags.unnamed)])
  if flags.names = [] then "<FLAG: " ++ toString flags.code ++ ">"
  else "<FLAG." ++ "|".intercalate shown ++ ": " ++ toString flags.code ++ ">"

theorem union_none (flags : Flags) : flags.union none = flags := by
  cases flags; simp [union, none]

theorem none_union (flags : Flags) : none.union flags = flags := by
  cases flags; simp [union, none]

theorem union_assoc (first second third : Flags) :
    (first.union second).union third = first.union (second.union third) := by
  simp [union, Bool.or_assoc, Nat.or_assoc]

theorem union_comm (first second : Flags) : first.union second = second.union first := by
  simp [union, Bool.or_comm, Nat.or_comm]

theorem union_self (flags : Flags) : flags.union flags = flags := by
  simp [union]

end Flags

end LibmAudit
