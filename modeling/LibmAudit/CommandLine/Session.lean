/-
**Answers of the command line.**

* `Answer`: the exit code with what is printed as result and as progress.
* `answer`: the built-in tables of the named routines are run against a library, the progress shows
  one mark per routine, and the result shows the reports of the verdicts and how many there are.
* `perform`: the same in the environments in force; `startingStack` has those of the start.

A format or a name that is not known ends the run with a message and the exit code 2. Failing
routines give the exit code 1.
-/

import LibmAudit.Check.Report
import LibmAudit.CommandLine.Arguments
import LibmAudit.Suite.Action

namespace LibmAudit.CommandLine

open Suite

/-- What a run of the program gives. -/
structure Answer where
  exitCode : Nat
  output : String
  errors : String
deriving DecidableEq, Repr

/-! ## Progress -/

/-- What an event shows while the session goes on. -/
def eventMark : Event → String
  | .warned text => text
  | .checked verdict => if verdict.passed then "." else "!"
  | .skipped _ _ => "-"

/-- The progress of a session so far. -/
def progress (session : Session) : String :=
  String.join (session.events.map eventMark)

/-! ## Results -/

/-- The verdicts that are shown. -/
def shownVerdicts (settings : Settings) (session : Session) : List Verdict :=
  session.verdicts.filter fun verdict => !(settings.quiet && verdict.passed)

/-- The lines for the routines that the library does not have. -/
def skippedLines (settings : Settings) (format : Format) (session : Session) : List String :=
  if settings.quiet then []
  else session.skipped.map fun (routine, reason) =>
    routine.name ++ " " ++ format.name ++ ": skipped, " ++ reason

/-- The number of verdicts with failures. -/
def failedCount (session : Session) : Nat :=
  (session.verdicts.filter fun verdict => !verdict.passed).length

/-- The line that counts verdicts. -/
def countLine (library : LibraryKind) (session : Session) : String :=
  toString session.verdicts.length ++ " functions checked with " ++ library.name ++ ", " ++
    toString (failedCount session) ++ " failed, " ++ toString session.skipped.length ++ " skipped"

/-- The answer for a session that went to its end. -/
def finished (settings : Settings) (format : Format) (session : Session) : Except Fault Answer := do
  let reports ← (shownVerdicts settings session).mapM (Verdict.report · settings.every)
  let lines := reports.flatten ++ skippedLines settings format session ++
    [countLine settings.library session]
  return ⟨if failedCount session = 0 then 0 else 1, textOfLines lines, progress session ++ "\n"⟩

/-! ## Answers -/

/-- Whether a fault is told in a message. -/
def isTold (fault : Fault) : Bool :=
  fault.category = .format || fault.category = .value

/-- The answer when a fault ends the run after some progress. -/
def stopped (shown : String) (fault : Fault) : Except Fault Answer :=
  if isTold fault then .ok ⟨2, "", shown ++ "fpcheck: " ++ fault.message ++ "\n"⟩
  else .error fault

/-- The format and the rounding mode that settings name. -/
def openContext (settings : Settings) : Except Fault (Context × Mode) := do
  let context ← Context.ofName (.text settings.precision) .nearestEven
  let mode ← Mode.parse (.text settings.rounding)
  return (context, mode)

/-- The names of routines that settings give; no name stands for all routines. -/
def selection (settings : Settings) : Option (List Datum) :=
  if settings.names.isEmpty then none else some (settings.names.map .text)

/-- What settings change about the default policies. -/
def Settings.options (settings : Settings) : Options :=
  ⟨settings.maxUlps.map .int, settings.flushSubnormals⟩

/-- The answer for a session. -/
def conclude (settings : Settings) (format : Format) (session : Session) : Except Fault Answer :=
  match session.fault with
  | some fault => stopped (progress session) fault
  | none => finished settings format session

/-- Runs the program with settings. -/
def answer (settings : Settings) : Except Fault Answer :=
  match openContext settings with
  | .error fault => stopped "" fault
  | .ok (context, mode) =>
    conclude settings context.format
      (run context settings.library mode settings.options (selection settings))

/-- Runs the program with settings in the environments in force. -/
def perform (settings : Settings) : Action Answer :=
  match openContext settings with
  | .error fault => Action.ofExcept (stopped "" fault)
  | .ok (context, mode) => do
    let session ←
      Suite.perform context settings.library mode settings.options (selection settings)
    Action.ofExcept (conclude settings context.format session)

theorem startingStack_ordered :
    ([({} : Environment)].length :: ([] ++ [0])).Pairwise (· > ·) := by
  decide

/-- The environments in force when the program starts: one, and no open scope. -/
def startingStack : EnvironmentStack where
  ordered := startingStack_ordered

/-- The last line that a refusal prints. -/
def refusalLine (misuse : Misuse) : String := "suite.py: error: " ++ misuse.message

end LibmAudit.CommandLine
