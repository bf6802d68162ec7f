/-
**Running the built-in tables.**

* `Options`: what is changed about the default policies.
* `Event`: what happens in a session: a warning, a checked table, or a routine that the library does
  not have.
* `Session`: the events in their order, and the fault that ended the session early, if there is one.
* `run`: runs the tables of routines against a library.
-/

import LibmAudit.Check.Subject
import LibmAudit.Suite.Tables

namespace LibmAudit.Suite

/-- What is changed about the default policies. -/
structure Options where
  /-- The accepted distance of routines that are not exact. -/
  maxUlps : Option Datum := none
  /-- Where a subnormal value is expected, a zero of its sign is accepted. -/
  flushSubnormals : Bool := false

/-- What happens in a session. -/
inductive Event
  | warned (text : String)
  | checked (verdict : Verdict)
  | skipped (routine : Routine) (reason : String)

/-- The events of a session, and the fault that ended it early. -/
structure Session where
  events : List Event := []
  fault : Option Fault := none

/-! ## Policies -/

/-- A policy with another accepted distance, unless it accepts no distance at all. -/
def Options.changeUlps (options : Options) (policy : Policy) : Except Fault Policy :=
  match options.maxUlps with
  | some accepted =>
    if 0 < policy.maxUlps.count then policy.change [("max_ulps", accepted)] else .ok policy
  | none => .ok policy

/-- The policy for a routine. -/
def Options.policyFor (options : Options) (routine : Routine) : Except Fault Policy := do
  let policy ← options.changeUlps (.default routine)
  return if options.flushSubnormals then { policy with flushSubnormals := true } else policy

/-! ## Sessions -/

namespace Session

/-- Adds an event. -/
def record (session : Session) (event : Event) : Session :=
  { session with events := session.events ++ [event] }

/-- Ends early. -/
def stop (session : Session) (fault : Fault) : Session := { session with fault := some fault }

/-- The verdicts. -/
def verdicts (session : Session) : List Verdict :=
  session.events.filterMap fun
    | .checked verdict => some verdict
    | _ => none

/-- The routines that the library does not have, with the reasons. -/
def skipped (session : Session) : List (Routine × String) :=
  session.events.filterMap fun
    | .skipped routine reason => some (routine, reason)
    | _ => none

end Session

/-- The verdict on a table. -/
def verdictOn (table : Table) (kind : LibraryKind) (mode : Mode) (policy : Policy) :
    Except Fault Verdict := do
  let performance ← (Subject.library kind table.routine).runOn table mode
  table.run policy mode performance.results

/-- Checks a table and records its verdict, after a warning if there is one. -/
def checkTable (kind : LibraryKind) (mode : Mode) (options : Options) (session : Session)
    (table : Table) : Session :=
  match options.policyFor table.routine with
  | .error fault => session.stop fault
  | .ok policy =>
    let warning := table.warning policy mode
    let warned := if warning.isEmpty then session else session.record (.warned warning)
    match verdictOn table kind mode policy with
    | .ok verdict => warned.record (.checked verdict)
    | .error fault => warned.stop fault

/-- Checks the built-in table of a routine. A routine that the library does not have is skipped. -/
def checkRoutine (context : Context) (kind : LibraryKind) (mode : Mode) (options : Options)
    (session : Session) (routine : Routine) : Session :=
  match builtInTable context routine with
  | .error fault => session.stop fault
  | .ok table =>
    match kind.lookup routine context.format with
    | .ok _ => checkTable kind mode options session table
    | .error fault =>
      if fault.category = .function then session.record (.skipped routine fault.message)
      else session.stop fault

/-- Checks the built-in tables of routines one after the other, until a fault ends the session. -/
def runFrom (context : Context) (kind : LibraryKind) (mode : Mode) (options : Options) :
    Session → List Routine → Session
  | session, [] => session
  | session, routine :: rest =>
    match session.fault with
    | some _ => session
    | none => runFrom context kind mode options
        (checkRoutine context kind mode options session routine) rest

/-- Runs the built-in tables of the named routines, or of all, in the order of the catalog. -/
def run (context : Context) (kind : LibraryKind) (mode : Mode) (options : Options)
    (names : Option (List Datum)) : Session :=
  match names.elim (.ok Routine.all) selectRoutines with
  | .ok routines => runFrom context kind mode options {} routines
  | .error fault => { fault := some fault }

end LibmAudit.Suite
