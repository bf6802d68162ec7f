/-
**Faults.**

Everything that can go wrong, by its cause, with what its message shows.

* `Fault`: the causes.
* `Fault.message`: the wording.
* `Fault.category`: the family a cause belongs to.
* `refuse`: raises a fault, unless its message would have to show an integer of more than 4300
  digits, which is a fault of its own.
* `findKey`: looks a key up, or says that it is missing.
-/

import LibmAudit.Arguments
import LibmAudit.Element.Problem
import LibmAudit.Value.Basic

namespace LibmAudit

-- Powers are the built-in ones, whatever else is imported.
attribute [local instance (high)] instPowNat

/-- The causes of failure. -/
inductive Fault
  /-- An integer of more than 4300 digits that a text would have to show. -/
  | integerTooLongToWrite
  /-- A run of more than 4300 digits that would have to be read. -/
  | digitsTooLongToRead (count : Nat)
  /-- A distance in bits that cannot be counted in digits. -/
  | shiftTooWide
  /-- A number of bits beyond all memory. -/
  | outOfMemory
  | negativeSignificand (significand : Int)
  | stickyZero
  | stickyWithoutRoom (width : Nat) (exponent : Int)
  | unknownModeCode (code : Datum)
  | invalidModeCode (code : Int)
  | unknownMode (name : Datum)
  | patternTooWide (pattern : Int) (width : Nat)
  | nonfinitePattern (pattern : Int)
  | noExponent (pattern : Int)
  | noSignificand (pattern : Int)
  | nonfiniteDistance (expected actual : String)
  | noTypeForPatterns (exponentBits totalBits : Nat)
  | noTypeForValues (format : String)
  | noTypeForTable (format : String)
  | noNativeType (format : String)
  | unknownPrecision (name : Datum)
  | widthsTooSmall (exponentBits totalBits : Int)
  | typeMismatch (carrier : Carrier) (exponentBits totalBits : Int)
  | precisionIsFixed
  | vectorsTooWide (format : String)
  | bitsNotInteger (value : Value)
  | bitsNegative (pattern : Int)
  | bitsTooWide (pattern width : Nat)
  | boolAsNumber (value : Bool)
  | boolAsInteger (value : Bool)
  | integerInexact (value : Int) (exponentBits totalBits : Nat)
  | hexadecimalInexact (literal : String) (exponentBits totalBits : Nat)
  | hexadecimalEmpty (literal : String)
  | undecodableText (literal : String)
  | foreignScalar (value : Value)
  | undecodableValue (value : Value)
  | notAnInteger (value : Value)
  | rowNotSequence (row : Value)
  | rowWidth (function : String) (inputs outputs entries : Nat)
  | missingInput
  | inRow (table : String) (index : Nat) (cause : Fault)
  | resultNotSequence (function : String) (outputs : Nat) (result : Value)
  | resultWidth (function : String) (outputs entries : Nat)
  | policyWidth (function : String) (checked outputs : Nat)
  | argument (function : String) (problem : ArgumentProblem)
  | notComparable (kind : String)
  | negativeTolerance (tolerance : Int)
  | unknownPolicyField (name : String)
  | notIterable (kind : String)
  | unknownFunction (name : Datum)
  | noSuchOutput (function : String) (outputs : Nat) (index : Int)
  | tupleIndex
  | positionTooLarge
  | outputNotInteger (function : String) (index : Int)
  | doubleOnly (function format : String)
  | fmaUnavailable (format : String)
  /-- A fused multiplication that gives a NaN without a NaN operand. -/
  | fmaInvalid
  /-- A fused multiplication that gives an infinity from finite operands. -/
  | fmaOverflow
  | noReference (function : String)
  | noOperation (function : String) (number : Nat)
  | precisionOutOfRange
  | precisionTooLarge
  | inexactZero (negative : Bool) (precision : Nat)
  | resultInexact
  | textNotNumber (text : String)
  | textNotExtended (text : String)
  | integerTooLarge
  | kindNotNumber (kind : String)
  | infinityToInteger (kind : String)
  | nanToInteger (kind : String)
  | integerOutOfBounds (value : Int) (kind : IntegerKind)
  | integerTooWide
  | raggedTuple (dimensions : Nat) (shape : List Nat)
  | nestedTooDeep (limit : Nat)
  | noOpenScope
  | tooFewScopes
  | raisedByFunction (text : String)
  | unknownByteOrder (mark : String) (type : String)
  | element (problem : ElementProblem)
  | frozen (attempt : String)
  | missingKey (key : Datum)
  | keyNotHashable (kind : String)
  | noMethod (name : String)

/-- What the text of an integer may not exceed. -/
def digitLimit : Nat := 4300

/-- Whether an integer has at most 4300 digits. -/
def isWritable (value : Int) : Bool := value.natAbs < 10 ^ digitLimit

namespace Fault

/-- The wording of a fault. -/
def message : Fault → String
  | integerTooLongToWrite =>
    "Exceeds the limit (4300 digits) for integer string conversion; " ++
      "use sys.set_int_max_str_digits() to increase the limit"
  | digitsTooLongToRead count =>
    "Exceeds the limit (4300 digits) for integer string conversion: value has " ++
      toString count ++ " digits; use sys.set_int_max_str_digits() to increase the limit"
  | shiftTooWide => "too many digits in integer"
  | outOfMemory => ""
  | negativeSignificand significand =>
    "significand must be nonnegative, got " ++ toString significand
  | stickyZero => "zero significand with sticky bit set"
  | stickyWithoutRoom width exponent =>
    "sticky bit given without extra precision: " ++ toString width ++ " bits at 2**" ++
      toString exponent
  | unknownModeCode code => "unknown rounding mode " ++ code.literal
  | invalidModeCode code => toString code ++ " is not a valid RM"
  | unknownMode name => "unsupported IEEE 754 rounding mode " ++ name.literal
  | patternTooWide pattern width =>
    "bit pattern " ++ hexText pattern ++ " does not fit in " ++ toString width ++ " bits"
  | nonfinitePattern pattern => "nonfinite bit pattern " ++ hexText pattern
  | noExponent pattern => "nonfinite bit pattern " ++ hexText pattern ++ " has no exponent"
  | noSignificand pattern => "nonfinite bit pattern " ++ hexText pattern ++ " has no significand"
  | nonfiniteDistance expected actual =>
    "ulp distance between nonfinite values " ++ expected ++ " and " ++ actual
  | noTypeForPatterns exponentBits totalBits =>
    "no numpy type holds values of format es=" ++ toString exponentBits ++ ", nbits=" ++
      toString totalBits
  | noTypeForValues format => "no numpy type holds " ++ format ++ " values"
  | noTypeForTable format => "no numpy type holds " ++ format ++ " values, cannot build a table"
  | noNativeType format => "numpy has no type for " ++ format
  | unknownPrecision name => "unsupported IEEE 754 precision " ++ name.literal
  | widthsTooSmall exponentBits totalBits =>
    "format with es=" ++ toString exponentBits ++ ", nbits=" ++ toString totalBits ++
      " cannot be represented with an IEEE 754 bit pattern"
  | typeMismatch carrier exponentBits totalBits =>
    "dtype " ++ carrier.name ++ " does not hold es=" ++ toString exponentBits ++ ", nbits=" ++
      toString totalBits ++ " values"
  | precisionIsFixed => "cannot change the precision of an existing context, make a new one"
  | vectorsTooWide format => "built-in vectors need binary32 or wider, not " ++ format
  | bitsNotInteger value => "expected int bit pattern, got " ++ value.literal
  | bitsNegative pattern => "bit pattern must be nonnegative, got " ++ toString pattern
  | bitsTooWide pattern width =>
    (Value.bits pattern).literal ++ " does not fit in " ++ toString width ++ " bits"
  | boolAsNumber value => "bool is not a floating point literal: " ++ boolLiteral value
  | boolAsInteger value => "bool is not an integer literal: " ++ boolLiteral value
  | integerInexact value exponentBits totalBits =>
    "integer " ++ toString value ++ " is not exact in format es=" ++ toString exponentBits ++
      ", nbits=" ++ toString totalBits
  | hexadecimalInexact literal exponentBits totalBits =>
    "hex literal " ++ Text.quote literal ++ " is not exact in format es=" ++
      toString exponentBits ++ ", nbits=" ++ toString totalBits
  | hexadecimalEmpty literal => "no digits in hex literal " ++ Text.quote literal
  | undecodableText literal => "cannot decode literal " ++ Text.quote literal
  | foreignScalar value => "numpy scalar " ++ value.literal ++ " does not have the table type"
  | undecodableValue value =>
    "cannot decode " ++ value.literal ++ " as a floating point literal"
  | notAnInteger value => "expected an integer literal, got " ++ value.literal
  | rowNotSequence row => "expected a sequence, got " ++ row.literal
  | rowWidth function inputs outputs entries =>
    function ++ " takes " ++ toString inputs ++ " inputs and returns " ++ toString outputs ++
      " outputs, but the row has " ++ toString entries ++ " entries"
  | missingInput => "inputs cannot be None"
  | inRow table index cause => table ++ " row " ++ toString index ++ ": " ++ cause.message
  | resultNotSequence function outputs result =>
    function ++ " should return " ++ toString outputs ++ " outputs, got " ++ result.literal
  | resultWidth function outputs entries =>
    function ++ " should return " ++ toString outputs ++ " outputs, got " ++ toString entries
  | policyWidth function checked outputs =>
    "policy checks " ++ toString checked ++ " outputs, but " ++ function ++ " returns " ++
      toString outputs
  | argument function problem => problem.message function
  | notComparable kind =>
    "'<' not supported between instances of " ++ Text.quote kind ++ " and 'int'"
  | negativeTolerance tolerance => "max_ulps must be nonnegative, got " ++ toString tolerance
  | unknownPolicyField name => "unknown policy field " ++ Text.quote name
  | notIterable kind => Text.quote kind ++ " object is not iterable"
  | unknownFunction name => "unknown libm function " ++ name.literal
  | noSuchOutput function outputs index =>
    function ++ " has " ++ toString outputs ++ " outputs, no output " ++ toString index
  | tupleIndex => "tuple index out of range"
  | positionTooLarge => "cannot fit 'int' into an index-sized integer"
  | outputNotInteger function index =>
    "output " ++ toString index ++ " of " ++ function ++ " is not an integer"
  | doubleOnly function format =>
    function ++ ": only available in double precision, not " ++ format
  | fmaUnavailable format =>
    "fma: needs math.fma and a double precision format, not " ++ format
  | fmaInvalid => "invalid operation in fma"
  | fmaOverflow => "overflow in fma"
  | noReference function => "no reference implementation of " ++ function
  | noOperation function number => "<FN." ++ function ++ ": " ++ toString number ++ ">"
  | precisionOutOfRange => "invalid value for precision"
  | precisionTooLarge => "invalid keyword arguments for context"
  | inexactZero negative precision =>
    "inexact zero from mpfr: mpfr('" ++ (if negative then "-0.0" else "0.0") ++ "'," ++
      toString precision ++ ")"
  | resultInexact => "inexact result"
  | textNotNumber text => "could not convert string to float: " ++ Text.quote text
  | textNotExtended text => "invalid literal for long double: " ++ text
  | integerTooLarge => "int too large to convert to float"
  | kindNotNumber kind =>
    "float() argument must be a string or a real number, not " ++ Text.quote kind
  | infinityToInteger kind => "cannot convert " ++ kind ++ " infinity to integer"
  | nanToInteger kind => "cannot convert " ++ kind ++ " NaN to integer"
  | integerOutOfBounds value kind =>
    "Python integer " ++ toString value ++ " out of bounds for " ++ kind.name
  | integerTooWide => "Python int too large to convert to C long"
  | raggedTuple dimensions shape =>
    "setting an array element with a sequence. The requested array has an inhomogeneous shape " ++
      "after " ++ toString dimensions ++ " dimensions. The detected shape was " ++
      tupleText (shape.map toString) ++ " + inhomogeneous part."
  | nestedTooDeep limit =>
    "setting an array element with a sequence. The requested array would exceed the maximum " ++
      "number of dimension of " ++ toString limit ++ "."
  | noOpenScope => "no open scope"
  | tooFewScopes => "pop from empty list"
  | raisedByFunction text => text
  | unknownByteOrder mark type =>
    "unknown numpy byteorder " ++ Text.quote mark ++ " for dtype " ++ type
  | element problem => problem.message
  | frozen attempt => "ImmutableDict cannot be modified: attempt to " ++ attempt
  | missingKey key => key.literal
  | keyNotHashable kind => "unhashable type: " ++ Text.quote kind
  | noMethod name => "'ImmutableDict' object has no attribute " ++ Text.quote name

/-- The family of a fault. -/
def category : Fault → Category
  | integerTooLongToWrite | digitsTooLongToRead _ => .value
  | shiftTooWide | integerTooLarge | infinityToInteger _ | fmaOverflow => .overflow
  | integerOutOfBounds _ _ | integerTooWide => .overflow
  | outOfMemory => .memory
  | nanToInteger _ | fmaInvalid => .value
  | negativeSignificand _ | stickyZero | stickyWithoutRoom _ _ => .value
  | unknownModeCode _ | invalidModeCode _ | unknownMode _ => .value
  | patternTooWide _ _ | nonfinitePattern _ | noExponent _ | noSignificand _ => .value
  | nonfiniteDistance _ _ => .value
  | noTypeForPatterns _ _ | noTypeForValues _ | noTypeForTable _ | noNativeType _ => .format
  | unknownPrecision _ | widthsTooSmall _ _ | typeMismatch _ _ _ | vectorsTooWide _ => .format
  | precisionIsFixed => .value
  | bitsNotInteger _ => .type
  | bitsNegative _ => .value
  | bitsTooWide _ _ | boolAsNumber _ | boolAsInteger _ | integerInexact _ _ _ => .literal
  | hexadecimalInexact _ _ _ | hexadecimalEmpty _ | undecodableText _ => .literal
  | foreignScalar _ | undecodableValue _ | notAnInteger _ => .literal
  | rowNotSequence _ | rowWidth _ _ _ _ | missingInput => .row
  | inRow _ _ cause => cause.category
  | resultNotSequence _ _ _ | resultWidth _ _ _ | policyWidth _ _ _ => .shape
  | negativeTolerance _ => .value
  | unknownPolicyField _ | argument _ _ | notComparable _ => .type
  | notIterable _ | keyNotHashable _ => .type
  | unknownFunction _ => .value
  | noSuchOutput _ _ _ | tupleIndex | positionTooLarge => .index
  | outputNotInteger _ _ => .value
  | doubleOnly _ _ | fmaUnavailable _ | noReference _ => .function
  | inexactZero _ _ => .value
  | noOperation _ _ => .key
  | precisionOutOfRange | precisionTooLarge => .value
  | resultInexact => .inexactResult
  | textNotNumber _ | textNotExtended _ => .value
  | kindNotNumber _ => .type
  | raggedTuple _ _ | nestedTooDeep _ => .value
  | noOpenScope | tooFewScopes => .index
  | raisedByFunction _ => .raised
  | unknownByteOrder _ _ => .value
  | element problem => problem.category
  | frozen _ => .value
  | missingKey _ => .key
  | noMethod _ => .attribute

/-- The integers of any size that the message of a fault shows in decimal. -/
def integers : Fault → List Int
  | negativeSignificand value | bitsNegative value | integerInexact value _ _
  | negativeTolerance value => [value]
  | stickyWithoutRoom _ exponent => [exponent]
  | widthsTooSmall exponentBits totalBits | typeMismatch _ exponentBits totalBits =>
    [exponentBits, totalBits]
  | noSuchOutput _ _ index => [index]
  | bitsNotInteger value | foreignScalar value | undecodableValue value | notAnInteger value
  | rowNotSequence value | resultNotSequence _ _ value => value.integers
  | _ => []

end Fault

/-- Raises a fault, or the refusal to write an integer that its message would show. -/
def refuse {α : Type} (fault : Fault) : Except Fault α :=
  .error (if fault.integers.all isWritable then fault else .integerTooLongToWrite)

/-- Refuses a power of two that cannot be stored, by its exponent. -/
def checkLength (exponent : Nat) : Except Fault Unit :=
  if isBeyondCounting exponent then .error .shiftTooWide
  else if isBeyondMemory exponent then .error .outOfMemory
  else .ok ()

/-- The mask of a number of ones, unless it is too long to be stored. -/
def maskOf (count : Int) : Except Fault Int :=
  (checkLength count.natAbs).map fun _ => bitmask count

/-- What a map with text keys has under a key. A list or a map cannot be a key. -/
def findKey {α : Type} (find? : String → Option α) (key : Datum) : Except Fault α :=
  match key with
  | .text name =>
    match find? name with
    | some item => .ok item
    | none => .error (.missingKey key)
  | .list _ | .map _ => .error (.keyNotHashable key.kindName)
  | key => .error (.missingKey key)

end LibmAudit
