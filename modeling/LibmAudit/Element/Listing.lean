/-
**Element types by listings.**

A description may also list the fields of a record, separated by commas, or say how often an element
is repeated. An item is a code with an optional repeat count, or a shape in parentheses, before it;
the mark for the byte order stands before the repeats or after them.

* `RepeatText.read`: the count or shape that a text stands for.
* `ElementType.repeated`: an element repeated.
* `ElementType.isListing`: whether a description is a listing.
* `ElementType.parse`: the type with any description.
-/

import LibmAudit.Element.Code
import LibmAudit.Text.Blank

namespace LibmAudit

/-! ## Repeats -/

/-- The text before a code: numbers and commas, possibly between parentheses. -/
structure RepeatText where
  opened : Bool
  inside : List Char
  closed : Bool
deriving DecidableEq, Repr

/-- How often an element is repeated. -/
inductive Repetition
  | count (number : Nat)
  | shape (numbers : List Nat)
deriving DecidableEq, Repr

/-- A piece of the text of repeats. -/
inductive RepeatToken
  | comma
  | digits (chars : List Char)
deriving DecidableEq, Repr

namespace RepeatToken

/-- The pieces of a text of digits, commas and blanks. -/
def ofChars : List Char → List RepeatToken
  | [] => []
  | ',' :: rest => comma :: ofChars rest
  | char :: rest =>
    if !char.isDigit then ofChars rest
    else
      match rest.head?.map Char.isDigit, ofChars rest with
      | some true, digits others :: tokens => digits (char :: others) :: tokens
      | _, tokens => digits [char] :: tokens

/-- Whether a piece is a number that is not zero and starts with a zero. -/
def hasLeadingZeros : RepeatToken → Bool
  | digits ('0' :: others) => others.any (· ≠ '0')
  | _ => false

/-- Numbers separated by single commas; one more comma may follow. -/
def numbers? : List RepeatToken → Option (List (List Char))
  | [digits chars] | [digits chars, comma] => some [chars]
  | digits chars :: comma :: rest => (numbers? rest).map (chars :: ·)
  | _ => none

/-- Whether two numbers stand side by side, with another piece after them, and nothing is wrong
before them. -/
def lacksComma (closed : Bool) : List RepeatToken → Bool
  | digits _ :: comma :: rest => lacksComma closed rest
  | digits _ :: digits _ :: rest => closed || !rest.isEmpty
  | _ => false

/-- Whether the first piece that stands where it cannot is a comma. -/
def misplacesComma : List RepeatToken → Bool
  | comma :: _ => true
  | digits _ :: comma :: rest => misplacesComma rest
  | _ => false

end RepeatToken

namespace RepeatText

/-- The count or shape that pieces stand for. -/
def readNumbers (tokens : List RepeatToken) (numbers : List (List Char)) :
    Except RepeatProblem Repetition :=
  match numbers.find? fun digits => digitLimit < digits.length, numbers, tokens with
  | some digits, _, _ => .error (.tooLong digits.length)
  | none, [digits], [_] => .ok (.count (Text.readDecimal digits))
  | none, numbers, _ => .ok (.shape (numbers.map Text.readDecimal))

/-- What is wrong with pieces that are no numbers separated by commas. -/
def problem (text : RepeatText) (tokens : List RepeatToken) : RepeatProblem :=
  if text.opened then
    if RepeatToken.lacksComma text.closed tokens then .commaMissing
    else if text.closed || RepeatToken.misplacesComma tokens then .misplaced
    else .unclosed
  else .misplaced

/-- The count or shape that a text stands for. -/
def read (text : RepeatText) : Except RepeatProblem Repetition :=
  let tokens := RepeatToken.ofChars text.inside
  if !text.opened && !text.closed && tokens.isEmpty then .error .nothing
  else if tokens.any RepeatToken.hasLeadingZeros then .error .leadingZeros
  else if text.closed && !text.opened then .error .unopened
  else if text.opened && text.closed && tokens.isEmpty then .ok (.shape [])
  else
    match RepeatToken.numbers? tokens with
    | some numbers =>
      if text.opened && !text.closed then .error (text.problem tokens)
      else readNumbers tokens numbers
    | none => .error (text.problem tokens)

end RepeatText

namespace ElementType

/-- Whether the size of a type is left open. -/
def isUnsized : ElementType → Bool
  | scalar .bytes 0 _ _ | scalar .text 0 _ _ | scalar .raw 0 _ _ => true
  | _ => false

/-- A type with another size. -/
def withSize (size : Nat) : ElementType → ElementType
  | scalar kind _ order unit => scalar kind size order unit
  | type => type

/-- The largest number of dimensions. -/
def greatestDepth : Nat := 64

/-- The least length that is no machine integer. -/
def lengthLimit : Nat := 9223372036854775808

/-- Whether an array has too many elements or bytes. A length of zero makes up only for the lengths
after it. -/
def isTooLarge (base : ElementType) (shape : List Nat) : Bool :=
  lengthLimit ≤ volume (shape.takeWhile (· ≠ 0)) || greatestSize < volume shape ||
    greatestSize < byteSize (array base shape)

/-- An array of a shape; without dimensions it is the element itself. -/
def arrayOf (base : ElementType) (shape : List Nat) : Except ElementProblem ElementType :=
  if greatestDepth < shape.length ∨ shape.any (lengthLimit ≤ ·) then .error .shapeNotIntegers
  else if shape.isEmpty then .ok base
  else if shape.any (greatestSize < ·) then .error .lengthTooLarge
  else if isTooLarge base shape then .error .sizeTooLarge
  else .ok (array base shape)

/-- An element repeated. The count of a type whose size is left open is its size. -/
def repeated (base : ElementType) (repetition : Repetition) : Except ElementProblem ElementType :=
  match base.isUnsized, repetition with
  | true, .count size =>
    if greatestSize < size then .error .sizeNotInteger else .ok (base.withSize size)
  | true, .shape _ => .error .sizeNotInteger
  | false, .count length => arrayOf base [length]
  | false, .shape shape => arrayOf base shape

end ElementType

/-! ## Items -/

/-- The parts of an item, as they are written. -/
structure ItemText where
  before : Option Char
  repeats : Option RepeatText
  after : Option Char
  code : List Char

/-- An item: its code with the mark of the byte order, and the repetition if there is one. -/
structure ListedItem where
  code : List Char
  repetition : Option Repetition

namespace ItemText

/-- Whether a character is a mark. -/
def isMark (char : Char) : Bool := (ElementType.orderOfMark char).isSome

/-- An optional character of some kind, and what follows it. -/
def takeOptional (accepts : Char → Bool) : List Char → Option Char × List Char
  | char :: rest => if accepts char then (some char, rest) else (none, char :: rest)
  | [] => (none, [])

/-- Whether a character may stand between the parentheses of a shape. -/
def isInside (char : Char) : Bool := char.isDigit || char = ' ' || char = ','

/-- Optional repeats, and what follows them. -/
def takeRepeats (chars : List Char) : Option RepeatText × List Char :=
  let (opening, inner) := takeOptional (· = '(') (chars.dropWhile (· = ' '))
  let (closing, rest) := takeOptional (· = ')') (inner.dropWhile isInside)
  let after := rest.dropWhile (· = ' ')
  if after.length = chars.length then (none, chars)
  else (some ⟨opening.isSome, inner.takeWhile isInside, closing.isSome⟩, after)

/-- Whether a character may stand in a code. -/
def isCode (char : Char) : Bool := char.isAlphanum || char = '.' || char = '?'

/-- Whether a character may stand between the brackets of a code. -/
def isBracketed (char : Char) : Bool := char.isAlphanum || char = '.' || char = ','

/-- A code, with brackets at its end if they are closed, and what follows it. -/
def takeCode (chars : List Char) : List Char × List Char :=
  let plain := chars.takeWhile isCode
  match chars.dropWhile isCode with
  | '[' :: inner =>
    match inner.dropWhile isBracketed with
    | ']' :: rest => (plain ++ '[' :: inner.takeWhile isBracketed ++ [']'], rest)
    | _ => (plain, '[' :: inner)
  | rest => (plain, rest)

/-- The item at the start of a text, and what follows it. -/
def take (chars : List Char) : ItemText × List Char :=
  let (before, chars) := takeOptional isMark chars
  let (repeats, chars) := takeRepeats chars
  let (after, chars) := takeOptional isMark chars
  let (code, rest) := takeCode chars
  (⟨before, repeats, after, code⟩, rest)

/-- A mark with the mark of the machine spelled out. -/
def spellOut (mark : Char) : Char := if mark = '=' then '<' else mark

/-- The mark of an item. -/
def mark? (item : ItemText) : Except ElementProblem (Option Char) :=
  match item.before, item.after with
  | mark, none | none, mark => .ok mark
  | some before, some after =>
    let (first, second) := (spellOut before, spellOut after)
    if first = second then .ok (some first)
    else .error (.orderConflict (String.singleton first) (String.singleton second))

/-- What an item says. Only the mark of the order that the machine does not have is kept. -/
def read (item : ItemText) : Except ElementProblem ListedItem := do
  let mark ← item.mark?
  let repetition ← (item.repeats.mapM RepeatText.read).mapError .badRepeat
  return ⟨if mark = some '>' then '>' :: item.code else item.code, repetition⟩

end ItemText

/-! ## Listings -/

namespace ElementType

/-- Whether a comma stands outside brackets; `depth` counts the open ones. -/
def hasOuterComma (depth : Int) : List Char → Bool
  | [] => false
  | ',' :: rest => depth = 0 || hasOuterComma depth rest
  | '[' :: rest => hasOuterComma (depth + 1) rest
  | ']' :: rest => hasOuterComma (depth - 1) rest
  | _ :: rest => hasOuterComma depth rest

/-- Whether what follows a mark starts with a digit, or with an empty shape before something. -/
def repeatsAfterMark : List Char → Bool
  | '(' :: ')' :: rest => !rest.isEmpty
  | first :: _ => first.isDigit
  | [] => false

/-- Whether a description starts with a digit or an empty shape, after an optional mark. -/
def startsWithRepeats : List Char → Bool
  | '(' :: ')' :: _ => true
  | first :: rest => first.isDigit || (ItemText.isMark first && repeatsAfterMark rest)
  | [] => false

/-- Whether a description is a listing. -/
def isListing (description : List Char) : Bool :=
  startsWithRepeats description || hasOuterComma 0 description.tail

/-- What follows the separator after an item, and whether there is a separator. -/
def afterSeparator? (chars : List Char) : Option (List Char × Bool) :=
  match chars.dropWhile Text.isBlank with
  | [] => some ([], false)
  | ',' :: rest => some (rest.dropWhile Text.isBlank, true)
  | _ => none

/-- Reads the items of a listing from a number on, and tells whether there are separators. -/
def readItems (listing : List Char) : Nat → Nat → List Char →
    Except ElementProblem (List ListedItem × Bool)
  | 0, _, _ | _, _, [] => .ok ([], false)
  | fuel + 1, number, chars => do
    let (text, rest) := ItemText.take chars
    match afterSeparator? rest with
    | none => throw (.unreadableItem number (String.ofList listing))
    | some (rest, separated) =>
      let item ← text.read
      let (items, further) ← readItems listing fuel (number + 1) rest
      return (item :: items, separated || further)

/-- The items without an empty one at their end. -/
def withoutEmptyLast (items : List ListedItem) : List ListedItem :=
  match items.getLast? with
  | some ⟨[], none⟩ => items.dropLast
  | _ => items

/-- The type of an item, by the type of its code. -/
def ofItem (parse : List Char → Except ElementProblem ElementType) (item : ListedItem) :
    Except ElementProblem ElementType := do
  let base ← parse item.code
  match item.repetition with
  | some repetition => base.repeated repetition
  | none => return base

/-- The type of a field of a record. -/
def ofField (parse : List Char → Except ElementProblem ElementType) (item : ListedItem) :
    Except ElementProblem ElementType := do
  match ← ofItem parse item with
  | scalar .string _ _ _ => throw .stringField
  | type => return type

/-- The type of a listing, by the types of its codes. -/
def ofListing (parse : List Char → Except ElementProblem ElementType) (listing : List Char) :
    Except ElementProblem ElementType := do
  match ← readItems listing listing.length 1 listing with
  | ([item], false) => ofItem parse item
  | (items, _) =>
    match withoutEmptyLast items with
    | [] => throw .emptyListing
    | fields => return record (← fields.mapM (ofField parse))

/-- The type with a description. The codes of a listing are shorter than the listing, so that the
depth of listings in listings is limited by its length. -/
def ofDescription : Nat → List Char → Except ElementProblem ElementType
  | 0, description => ofCode description
  | fuel + 1, description =>
    if isListing description then ofListing (ofDescription fuel) description
    else ofCode description

/-- The type with a description. -/
def parse (description : String) : Except Fault ElementType :=
  let chars := description.toList
  (ofDescription chars.length chars).mapError .element

end ElementType

end LibmAudit
