/-
**What is wrong with the description of an element type.**

* `RepeatProblem`: what is wrong with a repeat count or a shape in a listing.
* `ElementProblem`: what is wrong with a description.
* `ElementProblem.message`, `ElementProblem.category`: the wording, and the family of the fault.
-/

import LibmAudit.Category
import LibmAudit.Text.Quoted

namespace LibmAudit

/-- What is wrong with a repeat count or a shape. -/
inductive RepeatProblem
  /-- There is nothing but blanks. -/
  | nothing
  /-- A comma or a number stands where none can. -/
  | misplaced
  /-- Two numbers stand side by side inside parentheses. -/
  | commaMissing
  | unclosed
  | unopened
  | leadingZeros
  /-- A number has too many digits to be read. -/
  | tooLong (digits : Nat)
deriving DecidableEq, Repr

/-- The wording of a problem with a repeat count. -/
def RepeatProblem.message : RepeatProblem → String
  | nothing => "invalid syntax (<unknown>, line 0)"
  | misplaced => "invalid syntax (<unknown>, line 1)"
  | commaMissing => "invalid syntax. Perhaps you forgot a comma? (<unknown>, line 1)"
  | unclosed => "'(' was never closed (<unknown>, line 1)"
  | unopened => "unmatched ')' (<unknown>, line 1)"
  | leadingZeros =>
    "leading zeros in decimal integer literals are not permitted; use an 0o prefix for octal " ++
      "integers (<unknown>, line 1)"
  | tooLong digits =>
    "Exceeds the limit (4300 digits) for integer string conversion: value has " ++
      toString digits ++ " digits; use sys.set_int_max_str_digits() to increase the limit - " ++
      "Consider hexadecimal for huge integer literals to avoid decimal conversion limits. " ++
      "(<unknown>, line 1)"

/-- What is wrong with the description of an element type. -/
inductive ElementProblem
  | notUnderstood (description : String)
  | removedName (name : String)
  /-- A unit of time that breaks off; the position is missing when there is no unit at all. -/
  | unreadableUnit (unit : String) (position : Option Nat)
  | unknownUnit (unit : String)
  | divisorOfNothing
  | inexactDivisor (divisor : Int) (unit : String)
  | unreadableItem (number : Nat) (listing : String)
  | orderConflict (first second : String)
  | badRepeat (problem : RepeatProblem)
  | sizeNotInteger
  | shapeNotIntegers
  | lengthTooLarge
  | sizeTooLarge
  | emptyListing
  | stringField
deriving DecidableEq, Repr

namespace ElementProblem

/-- The wording of a problem. -/
def message : ElementProblem → String
  | notUnderstood description => "data type " ++ Text.quote description ++ " not understood"
  | removedName name =>
    "Alias '" ++ name ++ "' was removed in NumPy 2.0. Use a name without a digit at the end."
  | unreadableUnit unit position =>
    "Invalid datetime metadata string \"" ++ unit ++ "\"" ++
      (position.elim "" fun place => " at position " ++ toString place)
  | unknownUnit unit => "Invalid datetime unit in metadata string \"" ++ unit ++ "\""
  | divisorOfNothing => "Can't use 'den' divisor with generic units"
  | inexactDivisor divisor unit =>
    "divisor (" ++ toString divisor ++ ") is not a multiple of a lower-unit in datetime " ++
      "metadata \"" ++ unit ++ "\""
  | unreadableItem number listing =>
    "format number " ++ toString number ++ " of \"" ++ listing ++ "\" is not recognized"
  | orderConflict first second =>
    "inconsistent byte-order specification " ++ first ++ " and " ++ second
  | badRepeat problem => problem.message
  | sizeNotInteger => "invalid itemsize in generic type tuple"
  | shapeNotIntegers => "invalid shape in fixed-type tuple."
  | lengthTooLarge =>
    "invalid shape in fixed-type tuple: dimension does not fit into a C int."
  | sizeTooLarge =>
    "invalid shape in fixed-type tuple: dtype size in bytes must fit into a C int."
  | emptyListing => "invalid data-type"
  | stringField => "StringDType is not currently supported for structured dtype fields."

/-- The family of a problem. -/
def category : ElementProblem → Category
  | notUnderstood _ | removedName _ | unreadableUnit _ _ | unknownUnit _ | stringField => .type
  | badRepeat _ => .grammar
  | _ => .value

end ElementProblem

end LibmAudit
