/-
**Conversion to a machine type.**

A function under test may return any value. It is converted to the type of its slot before it is
compared.

* `Carrier.convert`: a pattern of one machine type as a pattern of another, to nearest even.
* `ArrayShape`, `Value.shape`: whether nested tuples make up an array.
* `Value.toCarrier`: a value as a pattern of a machine type. What is no number of some machine type
  goes through the 64-bit format; of a tuple the first entry counts, when all entries convert.
* `Value.toInteger?`: the integer that a value stands for.
-/

import LibmAudit.Decimal.ExtendedText

namespace LibmAudit

-- Powers are the built-in ones, whatever else is imported.
attribute [local instance (high)] instPowNat

/-! ## Between machine types -/

/-- A NaN of another format: the sign and the top bits of the fraction stay. Every conversion but
those of the 16-bit type from and to the 32-bit and 64-bit types sets the top fraction bit. -/
def Carrier.convertNaN (source target : Carrier) (pattern : Nat) : Nat :=
  let fraction := source.format.fractionField pattern
  let narrowed := fraction * 2 ^ target.format.fractionBits / 2 ^ source.format.fractionBits
  let top := 2 ^ (target.format.fractionBits - 1)
  let kept :=
    match source, target with
    | .half, .extended => narrowed ||| top
    | .half, _ => narrowed
    | _, .half => max 1 narrowed
    | _, _ => narrowed ||| top
  target.format.infinity (source.format.isNegative pattern) + kept

/-- A pattern of one machine type as a pattern of another, rounded once. -/
def Carrier.convertOnce (source target : Carrier) (pattern : Nat) : Nat :=
  let negative := source.format.isNegative pattern
  if source = target then pattern
  else if source.format.isNaN pattern then source.convertNaN target pattern
  else
    match source.format.significandOf? pattern, source.format.placeOf? pattern with
    | some significand, some place =>
      (target.format.roundExact .nearestEven negative significand place).pattern
    | _, _ => target.format.infinity negative

/-- A pattern of one machine type as a pattern of another. The extended type goes to the 16-bit type
through the 32-bit type. -/
def Carrier.convert (source target : Carrier) (pattern : Nat) : Nat :=
  match source, target with
  | .extended, .half => Carrier.single.convertOnce .half (source.convertOnce .single pattern)
  | _, _ => source.convertOnce target pattern

/-! ## Values -/

/-- An integer as a pattern of the 64-bit format; it must be in range. -/
def doubleOfInteger (value : Int) : Except Fault Nat :=
  let rounded := Format.double.roundInteger .nearestEven value
  if rounded.flags.overflow then .error .integerTooLarge else .ok rounded.pattern

/-- The text of a number as a pattern of a format. -/
def patternOfText (format : Format) (text : String) : Except Fault Nat :=
  match Decimal.NumberText.ofString? text with
  | some number => .ok (number.round format)
  | none => .error (.textNotNumber text)

/-- The text of an extended number as a pattern. -/
def patternOfExtendedText (text : String) : Except Fault Nat :=
  match Decimal.NumberText.ofExtended? text with
  | some number => .ok (number.round Format.extended)
  | none =>
    .error (.textNotExtended (String.ofList (Decimal.NumberText.beforeZero text)))

/-! ## Nested tuples -/

/-- How many dimensions an array may have. -/
def dimensionLimit : Nat := 64

/-- What is known of the shape of nested tuples while they are walked through in order. -/
structure ArrayShape where
  /-- The lengths of the first tuples of each depth. -/
  lengths : List Nat := []
  /-- The depth at which all entries are expected. -/
  depth : Nat := dimensionLimit
  /-- An entry or an empty tuple has been reached, so that the lengths are certain. -/
  settled : Bool := false
  /-- Some entry is not at the expected depth, or some length differs. -/
  ragged : Bool := false
deriving DecidableEq, Repr

namespace ArrayShape

/-- The shape after an entry at a depth. -/
def reachEntry (shape : ArrayShape) (depth : Nat) : ArrayShape :=
  if depth = shape.depth then { shape with settled := true }
  else { shape with depth, settled := true, ragged := shape.ragged || shape.settled }

/-- The shape after a tuple at the depth where entries are expected. -/
def reachTuple (shape : ArrayShape) : ArrayShape :=
  { shape with settled := true, ragged := true }

/-- The shape inside a tuple; none if its length differs from that of another one. -/
def enter? (shape : ArrayShape) (depth length : Nat) : Option ArrayShape :=
  if !shape.settled then some { shape with lengths := shape.lengths ++ [length] }
  else if shape.lengths[depth]? = some length then some shape
  else none

/-- The shape after a tuple whose length differs. -/
def differAt (shape : ArrayShape) (depth : Nat) : ArrayShape :=
  { shape with depth, ragged := true }

/-- The shape after an empty tuple. -/
def endAt (shape : ArrayShape) (depth : Nat) : ArrayShape :=
  { shape with depth := depth + 1, settled := true }

/-- Why there is no array of a ragged shape. -/
def fault (shape : ArrayShape) : Fault :=
  if shape.depth = dimensionLimit then .nestedTooDeep dimensionLimit
  else .raggedTuple shape.depth (shape.lengths.take shape.depth)

end ArrayShape

namespace Value

mutual
/-- The shape after a value at a depth. -/
def walk (depth : Nat) (shape : ArrayShape) : Value → ArrayShape
  | tuple items =>
    if depth = shape.depth then shape.reachTuple
    else
      match shape.enter? depth items.length with
      | some inside =>
        if items.isEmpty then inside.endAt depth else walkAll (depth + 1) inside items
      | Option.none => shape.differAt depth
  | _ => shape.reachEntry depth

/-- The shape after several values at a depth. -/
def walkAll (depth : Nat) (shape : ArrayShape) : List Value → ArrayShape
  | [] => shape
  | item :: rest => walkAll depth (walk depth shape item) rest
end

/-- The shape of a value. -/
def shape (value : Value) : ArrayShape := walk 0 {} value

/-- A value that is no tuple as a pattern of a machine type. -/
def scalarToCarrier (carrier : Carrier) : Value → Except Fault Nat
  | none => .ok (carrier.format.quietNaN false)
  | bool value => .ok (carrier.format.roundInteger .nearestEven value.toNat).pattern
  | int value =>
    if carrier = .extended then
      if isWritable value then .ok (carrier.format.roundInteger .nearestEven value).pattern
      else .error .integerTooLongToWrite
    else (doubleOfInteger value).map (Carrier.double.convert carrier)
  | text value =>
    if carrier = .extended then patternOfExtendedText value
    else (patternOfText Format.double value).map (Carrier.double.convert carrier)
  | bits _ => .error (.kindNotNumber "Bits")
  | number pattern => .ok (Carrier.double.convert carrier pattern)
  | scalar source pattern => .ok (source.convert carrier pattern)
  | fixed _ value => .ok (carrier.format.roundInteger .nearestEven value).pattern
  | tuple _ => .error (.kindNotNumber "tuple")

mutual
/-- The patterns of all entries of a value. -/
def entriesToCarrier (carrier : Carrier) : Value → Except Fault (List Nat)
  | tuple items => allToCarrier carrier items
  | value => (scalarToCarrier carrier value).map ([·])

/-- The patterns of all entries of several values. -/
def allToCarrier (carrier : Carrier) : List Value → Except Fault (List Nat)
  | [] => .ok []
  | item :: rest => do
    let patterns ← entriesToCarrier carrier item
    return patterns ++ (← allToCarrier carrier rest)
end

/-- A value as a pattern of a machine type. -/
def toCarrier (carrier : Carrier) (value : Value) : Except Fault Nat :=
  if value.shape.ragged then .error value.shape.fault
  else (entriesToCarrier carrier value).map fun patterns => patterns.headD 0

/-- A value as a pattern of a format, which must be that of a machine type. -/
def toFormat (format : Format) (value : Value) : Except Fault Nat :=
  match format.carrier? with
  | some carrier => value.toCarrier carrier
  | Option.none => .error (.noTypeForValues format.name)

/-! ## Integers -/

/-- The pattern in the 64-bit format that a value which is no integer is read as. -/
def toDouble? : Value → Option Nat
  | bool value => some (Format.double.roundInteger .nearestEven value.toNat).pattern
  | text value => (patternOfText Format.double value).toOption
  | number pattern => some pattern
  | scalar source pattern => some (source.convert .double pattern)
  | _ => Option.none

/-- The integer that a value stands for. What is no integer itself is first read in the 64-bit
format. -/
def toInteger? : Value → Option Int
  | int value => some value
  | fixed _ value => some value
  | value => do
    let pattern ← toDouble? value
    let (significand, place) ← Format.double.scaled? pattern
    if 0 ≤ place then some (significand * 2 ^ place.toNat)
    else if significand % 2 ^ (-place).toNat = 0 then some (significand / 2 ^ (-place).toNat)
    else Option.none

end Value

end LibmAudit
