/-
**Units of time.**

The elements of some types count units of time: a number of years, days, seconds or fractions of a
second, or nothing in particular.

* `TimeBase.parts`: how many finer units one unit has.
* `TimeUnit.divide`: a part of a unit as a number of finer ones.
* `TimeUnit.parse`: reads a unit in brackets, such as `[25s]` or `[D/24]`.
-/

import LibmAudit.Element.Problem
import LibmAudit.Text.Leading

namespace LibmAudit

/-- What a unit of time is a multiple of. -/
inductive TimeBase
  | year | month | week | day | hour | minute | second | milli | micro | nano | pico | femto | atto
  /-- Nothing in particular. -/
  | generic
deriving DecidableEq, Repr

namespace TimeBase

/-- The names of the bases; the first name of a base is the one that is written. -/
def names : List (String × TimeBase) := [
  ("Y", year), ("M", month), ("W", week), ("D", day), ("h", hour), ("m", minute), ("s", second),
  ("ms", milli), ("us", micro), ("ns", nano), ("ps", pico), ("fs", femto), ("as", atto),
  ("generic", generic), ("\u03bcs", micro)]

/-- The name of a base. -/
def name (base : TimeBase) : String :=
  ((names.find? fun entry => entry.2 = base).map (·.1)).getD ""

/-- The finer bases that a base is divided into, each with the number of its units. -/
def parts : TimeBase → List (Nat × TimeBase)
  | year => [(12, month), (52, week), (365, day)]
  | month => [(4, week), (30, day), (720, hour)]
  | week => [(7, day), (168, hour), (10080, minute), (604800, second)]
  | day => [(24, hour), (1440, minute), (86400, second)]
  | hour => [(60, minute), (3600, second)]
  | minute => [(60, second), (60000, milli)]
  | second => [(1000, milli), (1000000, micro)]
  | milli => [(1000, micro), (1000000, nano)]
  | micro => [(1000, nano), (1000000, pico)]
  | nano => [(1000, pico), (1000000, femto)]
  | pico => [(1000, femto), (1000000, atto)]
  | femto => [(1000, atto)]
  | atto | generic => []

end TimeBase

/-- A number of units of one base. -/
structure TimeUnit where
  count : Int := 1
  base : TimeBase := .generic
deriving DecidableEq, Repr

namespace TimeUnit

/-- The text of a unit in brackets; a generic one has none. -/
def text (unit : TimeUnit) : String :=
  if unit.base = .generic then ""
  else
    "[" ++ (if unit.count = 1 then "" else toString unit.count) ++ unit.base.name ++ "]"

/-- A part of a unit, in the coarsest finer base that it is a multiple of; `written` is the unit as
it is given. -/
def divide (unit : TimeUnit) (divisor : Int) (written : String) :
    Except ElementProblem TimeUnit :=
  if divisor = 1 then .ok unit
  else if unit.base = .generic then .error .divisorOfNothing
  else
    match unit.base.parts.find? fun part => divisor ≠ 0 && (part.1 : Int).tmod divisor = 0 with
    | some (number, base) => .ok ⟨unit.count * (number : Int).tdiv divisor, base⟩
    | none => .error (.inexactDivisor divisor written)

/-! ## Reading -/

/-- The number of bytes of a text. -/
def byteSize (chars : List Char) : Nat := (String.ofList chars).utf8ByteSize

/-- The problem of a unit that cannot be read from some point on. -/
def unreadableFrom (written rest : List Char) : ElementProblem :=
  .unreadableUnit (String.ofList written) (some (byteSize written - byteSize rest))

/-- The largest multiple of a unit. -/
def greatestCount : Int := 2147483647

/-- The multiple at the start of a unit, and what follows it; `rest` is all that follows the opening
bracket. -/
def takeCount (written inside rest : List Char) : Except ElementProblem (Int × List Char) :=
  match Text.leadingInteger? inside with
  | none => .ok (1, inside)
  | some (count, name) =>
    if count < 0 ∨ greatestCount < count then .error (unreadableFrom written rest)
    else .ok (count, name)

/-- Reads what is between the brackets; `closing` is the text from the closing bracket on. -/
def parseInside (written inside closing : List Char) : Except ElementProblem TimeUnit := do
  let (count, rest) ← takeCount written inside (inside ++ closing)
  let name := rest.takeWhile (· ≠ '/')
  if name.isEmpty then throw (unreadableFrom written (rest ++ closing))
  match TimeBase.names.lookup (String.ofList name) with
  | none => throw (.unknownUnit (String.ofList written))
  | some base =>
    match rest.dropWhile (· ≠ '/') with
    | [] => return ⟨count, base⟩
    | _ :: part =>
      match Text.leadingInteger? part with
      | some (divisor, []) => divide ⟨count, base⟩ divisor (String.ofList written)
      | _ => throw (unreadableFrom written (part ++ closing))

/-- Reads a unit in brackets; nothing is the generic unit. -/
def parse (written : List Char) : Except ElementProblem TimeUnit := do
  match written with
  | [] => return {}
  | bracket :: rest =>
    if byteSize written < 3 then throw (.unreadableUnit (String.ofList written) none)
    if bracket ≠ '[' then throw (.unreadableUnit (String.ofList written) (some 1))
    match rest.dropWhile (· ≠ ']') with
    | [] => throw (unreadableFrom written [])
    | closing :: after =>
      let unit ← parseInside written (rest.takeWhile (· ≠ ']')) (closing :: after)
      if after.isEmpty then return unit else throw (unreadableFrom written after)

end TimeUnit

end LibmAudit
