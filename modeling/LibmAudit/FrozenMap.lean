/-
**Frozen maps.**

A frozen map has text keys. It may be read, and every method that would change it is refused; only
the union in place gives it more entries.

* `Attempt`: the ways in which a change may be attempted. Every one of them is refused.
* `Query`: the ways in which a map may be read.
* `Request.ofCall`: what the call of a method asks for.
* `FrozenMap.answer`, `FrozenMap.after`: the answer to a request, and the map after it.
-/

import LibmAudit.Fault

namespace LibmAudit

/-- A map with text keys, in the order of their insertion. -/
structure FrozenMap where
  entries : List (String × Datum)

/-! ## Requests -/

/-- The ways in which a change may be attempted. -/
inductive Attempt
  | delete (key : Datum)
  | assign (key item : Datum)
  | clear
  | pop (key : Datum)
  | popItem
  | setDefault (key fallback : Datum)
  | update

/-- The wording of an attempt. -/
def Attempt.text : Attempt → String
  | delete key => "delete " ++ key.literal
  | assign key item => "assign [" ++ key.literal ++ "] = " ++ item.literal
  | clear => "clear"
  | pop key => "pop " ++ key.literal
  | popItem => "popitem"
  | setDefault key fallback =>
    "setdefault " ++ key.literal ++ ", default=" ++ fallback.literal
  | update => "update"

/-- The ways in which a map may be read. -/
inductive Query
  | item (key : Datum)
  | contains (key : Datum)
  | size
  | keys
  | items
  | entries
  | copy
  | text
  /-- The union with other entries. -/
  | union (others : List (String × Datum))

/-- What is asked of a map. -/
inductive Request
  | read (query : Query)
  | change (attempt : Attempt)
  /-- The union with other entries, kept in the map. -/
  | extend (others : List (String × Datum))

namespace Request

/-- What is wrong with the arguments of a method that needs the first few of them and takes no more
than all; the map counts as a further one. -/
def argumentProblem? (needed optional : List String) (given : Nat) : Option ArgumentProblem :=
  let most := needed.length + optional.length
  if given < needed.length then some (.missing (needed.drop given))
  else if given ≤ most then none
  else if optional.isEmpty then some (.excess (most + 1) (given + 1))
  else some (.excessOptional (needed.length + 1) (most + 1) (given + 1))

/-- The call of a method with these arguments, unless some of them are missing or too many. -/
def checked (method : String) (needed optional : List String) (given : Nat) (attempt : Attempt) :
    Except Fault Request :=
  match argumentProblem? needed optional given with
  | some problem => .error (.argument ("ImmutableDict." ++ method) problem)
  | none => .ok (.change attempt)

/-- The call of a method that takes one key. -/
def keyed (method : String) (arguments : List Datum) (query : Datum → Query) :
    Except Fault Request :=
  match arguments with
  | [key] => .ok (.read (query key))
  | arguments => .error (.argument ("dict." ++ method) (.onlyOne arguments.length))

/-- The entries of a map among arguments. -/
def entriesOf (arguments : List Datum) : List (String × Datum) :=
  match arguments with
  | .map entries :: _ => entries
  | _ => []

/-- What the call of a method asks for. -/
def ofCall (method : String) (arguments : List Datum) : Except Fault Request :=
  let given := arguments.length
  let first := arguments.headD .null
  let second := arguments.tail.headD .null
  match method with
  | "get" => .ok (.read (.item first))
  | "del" => .ok (.change (.delete first))
  | "set" => .ok (.change (.assign first second))
  | "__delitem__" => checked method ["key"] [] given (.delete first)
  | "__setitem__" => checked method ["key", "value"] [] given (.assign first second)
  | "clear" => checked method [] [] given .clear
  | "popitem" => checked method [] [] given .popItem
  | "setdefault" => checked method ["key"] ["default"] given (.setDefault first second)
  | "pop" => checked method ["key"] [] (min given 1) (.pop first)
  | "update" => .ok (.change .update)
  | "__getitem__" => keyed method arguments .item
  | "__contains__" => keyed method arguments .contains
  | "__len__" => .ok (.read .size)
  | "keys" | "__iter__" => .ok (.read .keys)
  | "values" => .ok (.read .items)
  | "items" => .ok (.read .entries)
  | "copy" => .ok (.read .copy)
  | "__repr__" | "__str__" => .ok (.read .text)
  | "__or__" => .ok (.read (.union (entriesOf arguments)))
  | "__ior__" => .ok (.extend (entriesOf arguments))
  | method => .error (.noMethod method)

end Request

/-! ## Answers -/

namespace FrozenMap

/-- The item of a key. -/
def get (map : FrozenMap) (key : Datum) : Except Fault Datum :=
  findKey (fun name => map.entries.lookup name) key

/-- Whether there is an item for a key. -/
def contains (map : FrozenMap) (key : Datum) : Except Fault Bool :=
  match map.get key with
  | .ok _ => .ok true
  | .error (.missingKey _) => .ok false
  | .error fault => .error fault

/-- The map with other entries set. -/
def union (map : FrozenMap) (others : List (String × Datum)) : FrozenMap :=
  ⟨setProperties map.entries others⟩

/-- What reading a map gives. -/
def read (map : FrozenMap) : Query → Except Fault Datum
  | .item key => map.get key
  | .contains key => (map.contains key).map .bool
  | .size => .ok (.int map.entries.length)
  | .keys => .ok (.list (map.entries.map fun entry => .text entry.1))
  | .items => .ok (.list (map.entries.map (·.2)))
  | .entries => .ok (.list (map.entries.map fun entry => .list [.text entry.1, entry.2]))
  | .copy => .ok (.map map.entries)
  | .text => .ok (.text (Datum.map map.entries).literal)
  | .union others => .ok (.map (map.union others).entries)

/-- The answer to a request. -/
def answer (map : FrozenMap) : Request → Except Fault Datum
  | .read query => map.read query
  | .change attempt => .error (.frozen attempt.text)
  | .extend others => .ok (.map (map.union others).entries)

/-- The map after a request. -/
def after (map : FrozenMap) : Request → FrozenMap
  | .extend others => map.union others
  | _ => map

/-- The entries in the order of their keys. -/
def sorted (map : FrozenMap) : List (String × Datum) :=
  map.entries.mergeSort fun first second => decide (first.1 ≤ second.1)

end FrozenMap

end LibmAudit
