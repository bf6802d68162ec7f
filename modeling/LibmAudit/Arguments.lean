/-
**Arguments of calls.**

A function may be called with the wrong number of arguments, or with named ones that it does not
take.

* `ArgumentProblem`: what is wrong with the arguments of a call.
* `ArgumentProblem.message`: the wording, for the function that is called.
-/

import LibmAudit.Text.Quoted

namespace LibmAudit

/-- What is wrong with the arguments of a call. -/
inductive ArgumentProblem
  /-- Some arguments are not given. -/
  | missing (names : List String)
  /-- More arguments are given than the function takes. -/
  | excess (accepted given : Nat)
  /-- More arguments are given than the function takes with all its optional ones. -/
  | excessOptional (least most given : Nat)
  /-- A named argument is not one of the function. -/
  | unexpected (name : String)
  /-- A named argument is given by position, too. -/
  | repeated (name : String)
  /-- The function takes one argument and tells how many are given. -/
  | onlyOne (given : Nat)
  /-- The function tells how many arguments it takes. -/
  | exactly (count : Nat)
deriving DecidableEq, Repr

/-- Names in a sentence: quoted, separated by commas, the last one after `and`. -/
def namesInSentence (names : List String) : String :=
  match names.map Text.quote with
  | [] => ""
  | [name] => name
  | [first, second] => first ++ " and " ++ second
  | shown => ", ".intercalate shown.dropLast ++ ", and " ++ shown.getLastD ""

/-- A number of things, with the word for them in its plural. -/
def counted (count : Nat) (word : String) : String :=
  toString count ++ " " ++ word ++ (if count = 1 then "" else "s")

/-- The wording of a problem, for the function that is called. -/
def ArgumentProblem.message (function : String) (problem : ArgumentProblem) : String :=
  function ++ "() " ++
    match problem with
    | missing names =>
      "missing " ++ toString names.length ++ " required positional argument" ++
        (if names.length = 1 then "" else "s") ++ ": " ++ namesInSentence names
    | excess accepted given =>
      "takes " ++ counted accepted "positional argument" ++ " but " ++ toString given ++
        (if given = 1 then " was" else " were") ++ " given"
    | excessOptional least most given =>
      "takes from " ++ toString least ++ " to " ++ toString most ++ " positional arguments but " ++
        toString given ++ " were given"
    | unexpected name => "got an unexpected keyword argument " ++ Text.quote name
    | repeated name => "got multiple values for argument " ++ Text.quote name
    | onlyOne given => "takes exactly one argument (" ++ toString given ++ " given)"
    | exactly count => "requires " ++ toString count ++ " arguments"

end LibmAudit
