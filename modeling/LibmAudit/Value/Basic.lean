/-
**Values in tables and from functions under test.**

An entry of a table row and the result of a function under test are values of any of these kinds: a
literal may be an integer or a text, a result a number of some machine type, a tuple of results, or
something that is no number at all.

* `Value`: the kinds.
* `Value.literal`: the text of a value as error messages show it.
* `Value.integers`: the integers that this text shows in decimal.
-/

import LibmAudit.Datum
import LibmAudit.Decimal.Shortest
import LibmAudit.Format.Pattern

namespace LibmAudit

-- Powers are the built-in ones, whatever else is imported.
attribute [local instance (high)] instPowNat

/-- Integer types of fixed width. -/
inductive IntegerKind
  | int8
  | int32
  | int64
  | uint8
deriving DecidableEq, Repr

/-- The name of an integer type. -/
def IntegerKind.name : IntegerKind → String
  | int8 => "int8"
  | int32 => "int32"
  | int64 => "int64"
  | uint8 => "uint8"

/-- A table entry or the result of a function under test. -/
inductive Value
  /-- No value. -/
  | none
  /-- A truth value. -/
  | bool (value : Bool)
  /-- An integer of any size. -/
  | int (value : Int)
  /-- A text. -/
  | text (value : String)
  /-- A tuple. -/
  | tuple (items : List Value)
  /-- A bit pattern that is taken as it is. -/
  | bits (pattern : Nat)
  /-- A plain number, by its pattern in the 64-bit format. -/
  | number (pattern : Nat)
  /-- A number of a machine type, by its pattern. -/
  | scalar (carrier : Carrier) (pattern : Nat)
  /-- An integer of fixed width. -/
  | fixed (kind : IntegerKind) (value : Int)
deriving Inhabited

/-! ## Numbers in decimal -/

/-- Writes a finite nonzero pattern in its shortest digits; `positional` decides on the significand
and exponent of the value and on the digits and their power of ten. -/
def shortestText (format : Format) (pattern : Nat)
    (positional : Nat → Int → Nat → Int → Bool) : String :=
  match format.significandOf? pattern, format.placeOf? pattern with
  | some significand, some place =>
    let closeBelow := format.fractionField pattern == 0 && 1 < format.exponentField pattern
    let (digits, power) := Decimal.shortest significand place closeBelow
    if positional significand place digits power then Decimal.writePositional digits power
    else Decimal.writeScientific digits power
  | _, _ => ""

/-- The text of a number: its sign, its name if it is not finite, its digits otherwise. -/
def numberText (format : Format) (pattern : Nat)
    (positional : Nat → Int → Nat → Int → Bool) : String :=
  if format.isNaN pattern then "nan"
  else
    (if format.isNegative pattern then "-" else "") ++
      (if format.isInfinite pattern then "inf"
      else if format.isZero pattern then "0.0"
      else shortestText format pattern positional)

/-- A plain number is positional when its first digit has a weight from `10 ^ (-4)` to `10 ^ 15`. -/
def plainNumberText (pattern : Nat) : String :=
  numberText Format.double pattern fun _ _ digits power =>
    let leading := Decimal.leadingPower digits power
    decide (-4 ≤ leading ∧ leading < 16)

/-- The power of ten that a number of a machine type must stay below to be positional; the digits
before the point are then certain. -/
def certainDigits : Carrier → Nat
  | .half => 3
  | .single => 6
  | .double | .extended => 16

/-- A number of a machine type is positional when its value is at least `10 ^ (-4)` and all its
digits before the point are certain. -/
def scalarText (carrier : Carrier) (pattern : Nat) : String :=
  numberText carrier.format pattern fun significand place _ _ =>
    let numerator := significand * 2 ^ place.toNat
    let denominator := 2 ^ (-place).toNat
    denominator ≤ 10000 * numerator && numerator < 10 ^ certainDigits carrier * denominator

namespace Value

/-- The text of an array scalar: its type and its digits, between quotes for the extended type. -/
def scalarLiteral (carrier : Carrier) (pattern : Nat) : String :=
  match carrier with
  | .extended => "np.longdouble('" ++ scalarText carrier pattern ++ "')"
  | _ => "np." ++ carrier.name ++ "(" ++ scalarText carrier pattern ++ ")"

mutual
/-- The text of a value. -/
def literal : Value → String
  | none => "None"
  | bool value => boolLiteral value
  | int value => toString value
  | text value => Text.quote value
  | tuple items => tupleText (literals items)
  | bits pattern => "Bits(" ++ hexText pattern ++ ")"
  | number pattern => plainNumberText pattern
  | scalar carrier pattern => scalarLiteral carrier pattern
  | fixed kind value => "np." ++ kind.name ++ "(" ++ toString value ++ ")"

/-- The texts of several values. -/
def literals : List Value → List String
  | [] => []
  | item :: rest => literal item :: literals rest
end

mutual
/-- The integers that the text of a value shows in decimal. -/
def integers : Value → List Int
  | int value => [value]
  | tuple items => integersOf items
  | _ => []

/-- The integers that the texts of several values show in decimal. -/
def integersOf : List Value → List Int
  | [] => []
  | item :: rest => integers item ++ integersOf rest
end

/-- The name of the kind of a value. -/
def kindName : Value → String
  | none => "NoneType"
  | bool _ => "bool"
  | int _ => "int"
  | text _ => "str"
  | tuple _ => "tuple"
  | bits _ => "Bits"
  | number _ => "float"
  | scalar .extended _ => "numpy.longdouble"
  | scalar carrier _ => "numpy." ++ carrier.name
  | fixed kind _ => "numpy." ++ kind.name

end Value

end LibmAudit
