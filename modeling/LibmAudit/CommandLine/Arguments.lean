/-
**Arguments of the command line.**

An argument is an option, a word, or the separator `--`, after which everything is a word. A long
option may be cut short as long as it stays unique, and its value is the next word or follows an
equals sign. The first run of words holds the names of the routines; later words are not recognized.

* `Argument.ofText`: what an argument is.
* `Settings.ofArguments`: what the arguments ask for.
* `Misuse`: why arguments are refused, with `Misuse.message` for the wording.
-/

import LibmAudit.Decimal.NumberText
import LibmAudit.Library.Basic

namespace LibmAudit.CommandLine

/-! ## Options -/

/-- The options. -/
inductive OptionName
  | help
  | precision
  | backend
  | round
  | maxUlps
  | flushSubnormals
  | every
  | quiet
deriving DecidableEq, Repr

namespace OptionName

/-- All options, in the order in which they are listed. -/
def all : List OptionName :=
  [help, precision, backend, round, maxUlps, flushSubnormals, every, quiet]

/-- The long form. -/
def spelling : OptionName → String
  | help => "--help"
  | precision => "--precision"
  | backend => "--backend"
  | round => "--round"
  | maxUlps => "--max-ulps"
  | flushSubnormals => "--flush-subnormals"
  | every => "--every"
  | quiet => "--quiet"

/-- All forms. -/
def label : OptionName → String
  | help => "-h/--help"
  | name => name.spelling

/-- Whether the option has a value. -/
def takesValue : OptionName → Bool
  | precision | backend | round | maxUlps => true
  | _ => false

/-- The options whose long form begins like this. -/
def startingWith (start : String) : List OptionName :=
  all.filter fun name => start.toList.isPrefixOf name.spelling.toList

end OptionName

/-! ## Refusals -/

/-- Why arguments are refused. -/
inductive Misuse
  | ambiguous (argument : String) (candidates : List OptionName)
  | missingValue (option : OptionName)
  | needlessValue (option : OptionName) (value : String)
  | invalidInteger (option : OptionName) (value : String)
  | invalidChoice (option : OptionName) (value : String) (choices : List String)
  | unrecognized (arguments : List String)
deriving DecidableEq, Repr

/-- The wording of a refusal. -/
def Misuse.message : Misuse → String
  | ambiguous argument candidates =>
    "ambiguous option: " ++ argument ++ " could match " ++
      ", ".intercalate (candidates.map OptionName.spelling)
  | missingValue option => "argument " ++ option.label ++ ": expected one argument"
  | needlessValue option value =>
    "argument " ++ option.label ++ ": ignored explicit argument " ++ Text.quote value
  | invalidInteger option value =>
    "argument " ++ option.label ++ ": invalid int value: " ++ Text.quote value
  | invalidChoice option value choices =>
    "argument " ++ option.label ++ ": invalid choice: " ++ Text.quote value ++ " (choose from " ++
      ", ".intercalate (choices.map Text.quote) ++ ")"
  | unrecognized arguments => "unrecognized arguments: " ++ " ".intercalate arguments

/-! ## Arguments -/

/-- What an argument is. -/
inductive Argument
  | word (text : String)
  | separator
  /-- An option, with a value if the argument holds one. -/
  | option (name : OptionName) (value : Option String)
  /-- What looks like an option and is none. -/
  | unknown (text : String)
deriving DecidableEq, Repr

/-- The parts of a text before and after its first equals sign. -/
def splitAtEquals (text : String) : String × Option String :=
  let chars := text.toList
  match chars.dropWhile (· ≠ '=') with
  | _ :: value => (String.ofList (chars.takeWhile (· ≠ '=')), some (String.ofList value))
  | [] => (text, none)

/-- Whether characters are a minus sign and a decimal without an exponent. A line end may follow. -/
def looksNegative (chars : List Char) : Bool :=
  let isDigit (char : Char) : Bool := (Text.digitValue? char).isSome
  let ends (rest : List Char) : Bool := rest == [] || rest == ['\n']
  match chars with
  | '-' :: number =>
    let rest := number.dropWhile isDigit
    match rest with
    | '.' :: fraction =>
      ((fraction.head?.map isDigit).getD false) && ends (fraction.dropWhile isDigit)
    | rest => ((number.head?.map isDigit).getD false) && ends rest
  | _ => false

/-- What an argument that is no option stands for. -/
def wordOrUnknown (text : String) : Argument :=
  if looksNegative text.toList || text.toList.contains ' ' then .word text else .unknown text

namespace Argument

/-- An argument with two leading dashes. -/
def ofLong (text : String) : Except Misuse Argument :=
  let (start, value) := splitAtEquals text
  match OptionName.all.find? fun name => name.spelling = start with
  | some name => .ok (.option name value)
  | none =>
    match OptionName.startingWith start with
    | [] => .ok (wordOrUnknown text)
    | [name] => .ok (.option name value)
    | candidates => .error (.ambiguous text candidates)

/-- What follows `-h` in one argument as a value. More of the same letter is no value, and an equals
sign right after `-h` does not count. -/
def shortValue : List Char → Option String
  | [] => none
  | ['='] => some ""
  | '=' :: value => letters value
  | value => letters value
where
  letters (value : List Char) : Option String :=
    match value.dropWhile (· = 'h') with
    | [] => none
    | rest => some (String.ofList rest)

/-- What an argument is, before the separator. -/
def ofText (text : String) : Except Misuse Argument :=
  match text.toList with
  | '-' :: '-' :: [] => .ok .separator
  | '-' :: '-' :: _ => ofLong text
  | '-' :: 'h' :: value => .ok (.option .help (shortValue value))
  | '-' :: _ :: _ => .ok (wordOrUnknown text)
  | _ => .ok (.word text)

/-- What the arguments are. -/
def ofTexts : List String → Except Misuse (List Argument)
  | [] => .ok []
  | text :: rest => do
    match ← ofText text with
    | .separator => return .separator :: rest.map .word
    | argument => return argument :: (← ofTexts rest)

end Argument

/-! ## Settings -/

/-- What the arguments ask for. -/
structure Settings where
  precision : String := "binary64"
  library : LibraryKind := .reference
  rounding : String := "RNE"
  maxUlps : Option Int := none
  flushSubnormals : Bool := false
  every : Bool := false
  quiet : Bool := false
  names : List String := []
  help : Bool := false

/-- An integer with an optional sign, without regard to blanks around it. -/
def readInteger? (text : String) : Option Int :=
  let (negative, unsigned) := Text.takeSign (Decimal.NumberText.trim text.toList)
  match Decimal.digitRun unsigned with
  | ([], _) => none
  | (digits, []) =>
    let magnitude : Int := Text.readDigits 10 digits
    if digitLimit < digits.length then none
    else some (if negative then -magnitude else magnitude)
  | _ => none

/-- The names of the libraries, as choices. -/
def libraryNames : List String := [LibraryKind.reference.name, (LibraryKind.native false).name]

namespace Settings

/-- Sets an option that has a value, where the runtime has a fused multiplication or has none. -/
def setValue (fused : Bool) (settings : Settings) (option : OptionName) (value : String) :
    Except Misuse Settings :=
  match option with
  | .precision => .ok { settings with precision := value }
  | .round => .ok { settings with rounding := value }
  | .backend =>
    match LibraryKind.ofName? value fused with
    | some library => .ok { settings with library }
    | none => .error (.invalidChoice option value libraryNames)
  | .maxUlps =>
    match readInteger? value with
    | some accepted => .ok { settings with maxUlps := some accepted }
    | none => .error (.invalidInteger option value)
  | option => .error (.needlessValue option value)

/-- Sets an option that has no value. -/
def switchOn (settings : Settings) : OptionName → Settings
  | .flushSubnormals => { settings with flushSubnormals := true }
  | .every => { settings with every := true }
  | .quiet => { settings with quiet := true }
  | .help => { settings with help := true }
  | _ => settings

end Settings

/-- The settings so far, whether the names have been given, and what is not recognized. -/
structure Reading where
  settings : Settings := {}
  named : Bool := false
  unrecognized : List String := []

namespace Reading

/-- Whether a word is a name: it follows a name, or no names have been given. -/
def takesNames (reading : Reading) (afterName : Bool) : Bool := afterName || !reading.named

/-- Adds names. -/
def addNames (reading : Reading) (names : List String) : Reading :=
  { reading with
    settings := { reading.settings with names := reading.settings.names ++ names }
    named := true }

/-- Adds what is not recognized. -/
def reject (reading : Reading) (text : String) : Reading :=
  { reading with unrecognized := reading.unrecognized ++ [text] }

/-- The settings, when everything is recognized. -/
def finish (reading : Reading) : Except Misuse Settings :=
  if reading.unrecognized.isEmpty then .ok reading.settings
  else .error (.unrecognized reading.unrecognized)

end Reading

/-- Reads arguments from left to right. The flag tells whether the last argument was a name, or the
separator among names. -/
def readArguments (fused : Bool) (reading : Reading) (afterName : Bool) :
    List Argument → Except Misuse Settings
  | [] => reading.finish
  | .word text :: rest =>
    if reading.takesNames afterName then readArguments fused (reading.addNames [text]) true rest
    else readArguments fused (reading.reject text) false rest
  | .separator :: rest =>
    if reading.takesNames afterName then readArguments fused (reading.addNames []) true rest
    else readArguments fused (reading.reject "--") false rest
  | .unknown text :: rest => readArguments fused (reading.reject text) false rest
  | .option name (some value) :: rest => do
    let settings ← reading.settings.setValue fused name value
    readArguments fused { reading with settings } false rest
  | .option name none :: rest =>
    if name.takesValue then
      match rest with
      | .word value :: rest => do
        let settings ← reading.settings.setValue fused name value
        readArguments fused { reading with settings } false rest
      | _ => .error (.missingValue name)
    else if name = .help then .ok { reading.settings with help := true }
    else readArguments fused { reading with settings := reading.settings.switchOn name } false rest

/-- What the arguments ask for, where the runtime has a fused multiplication or has none. -/
def Settings.ofArguments (texts : List String) (fused : Bool := false) :
    Except Misuse Settings := do
  readArguments fused {} false (← Argument.ofTexts texts)

end LibmAudit.CommandLine
