/-
**Plain data.**

Properties of a context, fields of a policy and entries of a frozen map are plain data: nothing,
truth values, integers, texts, lists and maps with text keys in the order of their insertion.

* `Datum.literal`: the text of a datum, texts between quotes.
* `Datum.plain`: the same, but a text stands for itself.
* `Datum.isTruthy`: whether a datum counts as true.
* `tupleText`: the text of a tuple.
-/

import LibmAudit.Text.Quoted

namespace LibmAudit

/-- A piece of plain data. -/
inductive Datum
  | null
  | bool (value : Bool)
  | int (value : Int)
  | text (value : String)
  | list (items : List Datum)
  | map (entries : List (String × Datum))
deriving Inhabited

/-- The name of a truth value. -/
def boolLiteral (value : Bool) : String := if value then "True" else "False"

/-- The text of a tuple, by the texts of its items. -/
def tupleText (items : List String) : String :=
  match items with
  | [] => "()"
  | [item] => "(" ++ item ++ ",)"
  | shown => "(" ++ ", ".intercalate shown ++ ")"

namespace Datum

mutual
/-- The text of a datum, texts between quotes. -/
def literal : Datum → String
  | null => "None"
  | bool value => boolLiteral value
  | int value => toString value
  | text value => Text.quote value
  | list items => "[" ++ ", ".intercalate (literals items) ++ "]"
  | map entries => "\x7b" ++ ", ".intercalate (entryLiterals entries) ++ "\x7d"

/-- The texts of several data. -/
def literals : List Datum → List String
  | [] => []
  | item :: rest => literal item :: literals rest

/-- The texts of the entries of a map. -/
def entryLiterals : List (String × Datum) → List String
  | [] => []
  | (key, item) :: rest => (Text.quote key ++ ": " ++ literal item) :: entryLiterals rest
end

/-- The text of a datum; a text stands for itself. -/
def plain : Datum → String
  | text value => value
  | datum => datum.literal

/-- Whether a datum counts as true: nothing, zero and what is empty do not. -/
def isTruthy : Datum → Bool
  | null => false
  | bool value => value
  | int value => value != 0
  | text value => !value.isEmpty
  | list items => !items.isEmpty
  | map entries => !entries.isEmpty

/-- Whether a datum is this text. -/
def isText (datum : Datum) (value : String) : Bool :=
  match datum with
  | text other => other = value
  | _ => false

/-- The name of the kind of a datum. -/
def kindName : Datum → String
  | null => "NoneType"
  | bool _ => "bool"
  | int _ => "int"
  | text _ => "str"
  | list _ => "list"
  | map _ => "dict"

end Datum

/-- The text of a map of properties. -/
def propertiesLiteral (entries : List (String × Datum)) : String :=
  (Datum.map entries).literal

/-- A map with a key set: a key that is there keeps its place. -/
def setProperty (key : String) (item : Datum) :
    List (String × Datum) → List (String × Datum)
  | [] => [(key, item)]
  | (other, old) :: rest =>
    if other = key then (key, item) :: rest else (other, old) :: setProperty key item rest

/-- A map with the entries of another one set in their order. -/
def setProperties (entries changes : List (String × Datum)) : List (String × Datum) :=
  changes.foldl (fun result change => setProperty change.1 change.2 result) entries

end LibmAudit
