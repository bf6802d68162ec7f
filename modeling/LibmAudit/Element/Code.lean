/-
**Element types by codes and names.**

A single type is described by a code or by a name. A code is an optional mark for the byte order, a
letter for the kind, and a size or a unit of time; some letters stand for a kind with its size.

* `ElementType.ofLetter?`, `ElementType.ofSized?`: the type of a letter, alone or with a size.
* `ElementType.names`: the types that have names. A name has no mark.
* `ElementType.ofCode`: the type with such a description.
-/

import LibmAudit.Element.Basic

namespace LibmAudit.ElementType

/-! ## Marks -/

/-- The byte order that a mark stands for. -/
def orderOfMark : Char → Option ByteOrder
  | '<' | '=' | '|' => some .little
  | '>' => some .big
  | _ => none

/-- A code without its mark, and the order that the mark stands for; a missing one stands for the
order of the machine. -/
def splitMark (description : List Char) : ByteOrder × List Char :=
  match description with
  | mark :: code =>
    match orderOfMark mark with
    | some order => (order, code)
    | none => (.little, description)
  | [] => (.little, [])

/-! ## Letters -/

/-- The letters of the kinds with their sizes, in the order of the numbers that the kinds have. -/
def numberedLetters : List (Char × ElementKind × Nat) := [
  ('?', .truth, 1), ('b', .signed, 1), ('B', .unsigned, 1), ('h', .signed, 2),
  ('H', .unsigned, 2), ('i', .signed, 4), ('I', .unsigned, 4), ('l', .signed, 8),
  ('L', .unsigned, 8), ('q', .signed, 8), ('Q', .unsigned, 8), ('f', .float, 4), ('d', .float, 8),
  ('g', .float, 16), ('F', .complex, 8), ('D', .complex, 16), ('G', .complex, 32),
  ('O', .object, 8), ('S', .bytes, 0), ('U', .text, 0), ('V', .raw, 0), ('M', .moment, 8),
  ('m', .span, 8), ('e', .float, 2)]

/-- The letters of kinds that have no number of their own. -/
def furtherLetters : List (Char × ElementKind × Nat) := [
  ('n', .signed, 8), ('p', .signed, 8), ('N', .unsigned, 8), ('P', .unsigned, 8),
  ('c', .bytes, 1), ('\x1a', .bytes, 1), ('T', .string, 16)]

/-- The type of a letter. The character whose code is the number of a kind stands for it, too. -/
def ofLetter? (letter : Char) : Option ElementType :=
  match (numberedLetters ++ furtherLetters).lookup letter with
  | some (kind, size) => some (plain kind size)
  | none => numberedLetters[letter.toNat]?.map fun (_, kind, size) => plain kind size

/-! ## Sizes -/

/-- The letters that a size in bytes may follow, with the sizes and the types. -/
def sizedLetters : List (Char × Nat × ElementType) := [
  ('b', 1, plain .truth 1), ('O', 4, plain .object 8), ('O', 8, plain .object 8),
  ('M', 8, plain .moment 8), ('m', 8, plain .span 8)]

/-- The letters of numbers, with the sizes in bytes that there are. -/
def numberLetters : List (Char × ElementKind × List Nat) := [
  ('i', .signed, [1, 2, 4, 8]), ('u', .unsigned, [1, 2, 4, 8]), ('f', .float, [2, 4, 8, 16]),
  ('c', .complex, [8, 16, 32])]

/-- The type of a number with a size in bytes. -/
def ofNumber? (letter : Char) (size : Nat) : Option ElementType :=
  match numberLetters.lookup letter with
  | some (kind, sizes) => if sizes.contains size then some (plain kind size) else none
  | none =>
    (sizedLetters.find? fun entry => entry.1 = letter && entry.2.1 = size).map (·.2.2)

/-- The type of a letter with a size. -/
def ofSized? (letter : Char) (size : Nat) : Option ElementType :=
  match letter with
  | 'S' | 'a' => some (plain .bytes size)
  | 'U' => some (plain .text size)
  | 'V' => some (plain .raw size)
  | letter => ofNumber? letter size

/-- The largest size, and the largest length of an array. -/
def greatestSize : Nat := 2147483647

/-- The type of a code without a mark. -/
def ofUnmarked? : List Char → Option ElementType
  | [] => none
  | [letter] => ofLetter? letter
  | letter :: size =>
    match Text.leadingInteger? size with
    | some (count, []) =>
      if count < 0 ∨ (greatestSize : Int) < count then none else ofSized? letter count.toNat
    | _ => none

/-! ## Times -/

/-- What the code of a point or span of time starts with. -/
def timeStarts : List (String × ElementKind) := [
  ("M8", .moment), ("m8", .span), ("datetime64", .moment), ("timedelta64", .span)]

/-- The kind of a time and its unit in brackets. -/
def splitTime? (code : List Char) : Option (ElementKind × List Char) :=
  (timeStarts.find? fun entry => entry.1.toList.isPrefixOf code).map fun entry =>
    (entry.2, code.drop entry.1.length)

/-! ## Names -/

/-- The types with their names. -/
def names : List (ElementType × List String) := [
  (plain .truth 1, ["bool", "bool_"]),
  (plain .signed 1, ["int8", "byte"]),
  (plain .signed 2, ["int16", "short"]),
  (plain .signed 4, ["int32", "intc"]),
  (plain .signed 8, ["int64", "long", "int", "int_", "intp", "longlong"]),
  (plain .unsigned 1, ["uint8", "ubyte"]),
  (plain .unsigned 2, ["uint16", "ushort"]),
  (plain .unsigned 4, ["uint32", "uintc"]),
  (plain .unsigned 8, ["uint64", "ulong", "uint", "uintp", "ulonglong"]),
  (plain .float 2, ["float16", "half"]),
  (plain .float 4, ["float32", "single"]),
  (plain .float 8, ["float64", "double", "float"]),
  (plain .float 16, ["float128", "longdouble"]),
  (plain .complex 8, ["complex64", "csingle"]),
  (plain .complex 16, ["complex128", "cdouble", "complex"]),
  (plain .complex 32, ["complex256", "clongdouble"]),
  (plain .object 8, ["object", "object_"]),
  (plain .bytes 0, ["bytes", "bytes_", "a"]),
  (plain .text 0, ["str", "str_", "unicode"]),
  (plain .raw 0, ["void"])]

/-- Names that once were names of types. -/
def removedNames : List String := ["int0", "uint0", "void0", "object0", "str0", "bytes0", "bool8"]

/-- The type with a name. -/
def ofName? (name : String) : Option ElementType :=
  (names.find? fun entry => entry.2.contains name).map (·.1)

/-- What is wrong with a description that neither is a code nor a name. -/
def unknown (description code : List Char) : ElementProblem :=
  let name := String.ofList code
  if removedNames.contains name then .removedName name
  else .notUnderstood (String.ofList description)

/-! ## Descriptions -/

/-- The type with a code or a name. -/
def ofCode (description : List Char) : Except ElementProblem ElementType :=
  let (order, code) := splitMark description
  match splitTime? code with
  | some (kind, unit) => (TimeUnit.parse unit).map (scalar kind 8 order)
  | none =>
    match ofUnmarked? code with
    | some type => .ok (type.withOrder order)
    | none =>
      match ofName? (String.ofList description) with
      | some type => .ok type
      | none => .error (unknown description code)

end LibmAudit.ElementType
