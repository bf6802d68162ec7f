/-
**Contexts.**

A context is a format with a rounding mode and free properties. The properties `round` and
`precision` choose the mode and the format, by their names: properties are plain data and hold no
modes or formats themselves.

* `Context.make`: a context from properties and explicit widths, mode and machine type, which win
  over the properties.
* `Context.extend`: a context with more properties; the format of a context is fixed.
* `Context.ofName`: a context of a named format, without properties.
-/

import LibmAudit.Format.Named

namespace LibmAudit

/-- Free properties, in the order of their insertion. -/
abbrev Properties := List (String × Datum)

/-- A format with a rounding mode and properties. -/
structure Context where
  format : Format
  mode : Mode := .nearestEven
  properties : Properties := []

/-- What is given explicitly when a context is made. -/
structure ContextChoice where
  exponentBits : Option Int := none
  totalBits : Option Int := none
  mode : Option Mode := none
  carrier : Option Carrier := none

/-- The item of a property. -/
def property? (key : String) (properties : Properties) : Option Datum :=
  properties.lookup key

namespace Context

/-- The mode that properties choose. -/
def modeOf? (properties : Properties) : Except Fault (Option Mode) :=
  match property? "round" properties with
  | some rounding => (Mode.parse rounding).map some
  | none => .ok none

/-- The format that properties choose. -/
def formatOf? (properties : Properties) : Except Fault (Option NamedFormat) :=
  match property? "precision" properties with
  | some precision => (NamedFormat.parse precision).map some
  | none => .ok none

/-- The format with these widths, held by a machine type if one is given. Its largest exponent is a
number that has to be stored. -/
def formatOfWidths (exponentBits totalBits : Int) (carrier : Option Carrier) :
    Except Fault Format :=
  match Format.ofWidths? exponentBits totalBits with
  | none => refuse (.widthsTooSmall exponentBits totalBits)
  | some format => do
    checkLength (format.exponentBits - 1)
    match carrier with
    | some carrier =>
      if carrier.format = format then return format
      else refuse (.typeMismatch carrier exponentBits totalBits)
    | none => return format

/-- A context from properties and explicit choices. -/
def make (properties : Properties) (choice : ContextChoice) : Except Fault Context := do
  let mode ← modeOf? properties
  let named := (← formatOf? properties).getD ⟨Format.double, none⟩
  let exponentBits := choice.exponentBits.getD named.format.exponentBits
  let totalBits := choice.totalBits.getD named.format.totalBits
  let format ← formatOfWidths exponentBits totalBits (choice.carrier <|> named.carrier?)
  return ⟨format, (choice.mode <|> mode).getD .nearestEven, setProperties [] properties⟩

/-- A context with more properties. -/
def extend (context : Context) (changes : Properties) : Except Fault Context := do
  let mode ← modeOf? changes
  if (property? "precision" changes).isSome then throw .precisionIsFixed
  return { context with
    mode := mode.getD context.mode
    properties := setProperties context.properties changes }

/-- The context of a named format in a mode. -/
def ofName (precision : Datum) (mode : Mode) : Except Fault Context := do
  let named ← NamedFormat.parse precision
  return ⟨named.format, mode, []⟩

/-- The text of a context. -/
def text (context : Context) : String :=
  "IEEECtx(es=" ++ toString context.format.exponentBits ++ ", nbits=" ++
    toString context.format.totalBits ++ ", rm=" ++ context.mode.name ++ ", dtype=" ++
    (if context.format.carrier?.isSome then context.format.carrierName else "None") ++ ")"

/-- The text of bare properties. -/
def propertiesText (properties : Properties) : String :=
  "EvalCtx(" ++
    (if properties.isEmpty then "" else "props=" ++ propertiesLiteral properties) ++ ")"

end Context

end LibmAudit
