/-
**Types of array elements.**

* `ElementType`: numbers and texts of a size and byte order, arrays of elements, and records.
* `ElementType.byteSize`: how much memory an element takes.
* `ElementType.text`, `ElementType.describe`: how a type is shown inside another one and by itself.
* `ElementType.byteOrder`: the order of the bytes of an element. Types of single bytes and of
  unstructured data have none, nor have arrays and records.
-/

import LibmAudit.Element.TimeUnit
import LibmAudit.Fault

namespace LibmAudit

/-- The order of the bytes of a number. -/
inductive ByteOrder
  | little
  | big
deriving DecidableEq, Repr

/-- The name of a byte order. -/
def ByteOrder.name : ByteOrder → String
  | little => "little"
  | big => "big"

/-- The mark of a byte order. -/
def ByteOrder.mark : ByteOrder → String
  | little => "<"
  | big => ">"

/-- The kinds of elements that are neither arrays nor records. -/
inductive ElementKind
  | truth | signed | unsigned | float | complex | object | bytes | text | raw
  /-- A point of time. -/
  | moment
  /-- A span of time. -/
  | span
  /-- A text of any length. -/
  | string
deriving DecidableEq, Repr

/-- A type of array elements. -/
inductive ElementType
  /-- An element of a kind. The size of a text counts characters, all others count bytes; a size of
  zero is left open. -/
  | scalar (kind : ElementKind) (size : Nat) (order : ByteOrder) (unit : TimeUnit)
  /-- An array of elements. -/
  | array (base : ElementType) (shape : List Nat)
  /-- A record of fields that are numbered. -/
  | record (fields : List ElementType)
deriving Inhabited

namespace ElementType

/-- An element in the order of the machine, without a unit. -/
def plain (kind : ElementKind) (size : Nat) : ElementType := scalar kind size .little {}

/-- Whether the bytes of a kind have an order. -/
def isOrdered (kind : ElementKind) (size : Nat) : Bool :=
  match kind with
  | .truth | .object | .bytes | .raw | .string => false
  | .signed | .unsigned => size != 1
  | .float | .complex | .text | .moment | .span => true

/-- A type with its bytes in an order, if they have any. -/
def withOrder (order : ByteOrder) : ElementType → ElementType
  | scalar kind size _ unit => scalar kind size order unit
  | type => type

/-- The number of entries of an array of a shape. -/
def volume (shape : List Nat) : Nat := shape.foldl (fun product length => product * length) 1

mutual
/-- The number of bytes of an element. -/
def byteSize : ElementType → Nat
  | scalar .text size _ _ => 4 * size
  | scalar _ size _ _ => size
  | array base shape => volume shape * byteSize base
  | record fields => byteSizes fields

/-- The number of bytes of several elements. -/
def byteSizes : List ElementType → Nat
  | [] => 0
  | field :: rest => byteSize field + byteSizes rest
end

/-! ## Text -/

/-- The letter of a kind. -/
def letter : ElementKind → String
  | .truth => "?"
  | .signed => "i"
  | .unsigned => "u"
  | .float => "f"
  | .complex => "c"
  | .object => "O"
  | .bytes => "S"
  | .text => "U"
  | .raw => "V"
  | .moment => "M"
  | .span => "m"
  | .string => "T"

/-- The word for a kind of numbers. -/
def word : ElementKind → String
  | .truth => "bool"
  | .signed => "int"
  | .unsigned => "uint"
  | .float => "float"
  | .complex => "complex"
  | kind => letter kind

/-- The code of a kind with its size, which is not shown when it is left open. -/
def codeText (kind : ElementKind) (size : Nat) (unit : TimeUnit) : String :=
  match kind with
  | .truth | .object | .string => letter kind
  | .bytes | .text | .raw => letter kind ++ (if size = 0 then "" else toString size)
  | .moment | .span => letter kind ++ toString size ++ unit.text
  | .signed | .unsigned | .float | .complex => letter kind ++ toString size

/-- The code of a kind with its mark, between quotes. -/
def scalarText (kind : ElementKind) (size : Nat) (order : ByteOrder) (unit : TimeUnit) : String :=
  "'" ++ (if isOrdered kind size then order.mark else "") ++ codeText kind size unit ++ "'"

/-- The name of a number whose bytes have no other order than that of the machine. -/
def wordText? (kind : ElementKind) (size : Nat) (order : ByteOrder) : Option String :=
  match kind with
  | .truth => some "'bool'"
  | .signed | .unsigned | .float | .complex =>
    if isOrdered kind size && order = .big then none
    else some ("'" ++ word kind ++ toString (8 * size) ++ "'")
  | _ => none

/-- A shape as a tuple. -/
def shapeText (shape : List Nat) : String := tupleText (shape.map toString)

/-- The text of a field after its name. -/
def fieldText (number : Nat) (contents : String) : String :=
  "('f" ++ toString number ++ "', " ++ contents ++ ")"

mutual
/-- The text of a type inside another one. -/
def text : ElementType → String
  | scalar kind size order unit => scalarText kind size order unit
  | array base shape => "(" ++ text base ++ ", " ++ shapeText shape ++ ")"
  | record fields => "[" ++ ", ".intercalate (fieldTexts 0 fields) ++ "]"

/-- The texts of fields from a number on. -/
def fieldTexts (number : Nat) : List ElementType → List String
  | [] => []
  | array base shape :: rest =>
    fieldText number (text base ++ ", " ++ shapeText shape) :: fieldTexts (number + 1) rest
  | field :: rest => fieldText number (text field) :: fieldTexts (number + 1) rest
end

/-- The text of a type by itself. -/
def describe : ElementType → String
  | scalar .string _ _ _ => "StringDType()"
  | scalar kind size order unit =>
    "dtype(" ++ (wordText? kind size order).getD (scalarText kind size order unit) ++ ")"
  | type => "dtype(" ++ type.text ++ ")"

/-! ## Byte order -/

/-- The order of the bytes of an element, if they have one. -/
def order? : ElementType → Option ByteOrder
  | scalar kind size order _ => if isOrdered kind size then some order else none
  | _ => none

/-- The order of the bytes of an element. -/
def byteOrder (type : ElementType) : Except Fault ByteOrder :=
  match type.order? with
  | some order => .ok order
  | none => .error (.unknownByteOrder "|" type.describe)

end ElementType

end LibmAudit
