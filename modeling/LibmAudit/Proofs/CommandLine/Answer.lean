/-
**What the program answers.**

A run of the program ends with an answer, whatever its settings are, and leaves the environments as
they were. A format, a mode, a name or an accepted distance that is refused gives the exit code 2.
Otherwise the answer accounts for every selected routine.

* `Account`: what an answer accounts for, down to the lines that are printed.
* `answer_cases`: an answer refuses the settings or is such an account.
* `on_perform`: a run in the environments in force gives the answer.
* `perform_accounts`: the law, with what another accepted distance does to the answer.
-/

import LibmAudit.Proofs.CommandLine.Printed
import LibmAudit.Proofs.Suite.Action

namespace LibmAudit.CommandLine

open Suite

/-! ## Accounts -/

/-- What an answer accounts for, with the routines in the order of the catalog. -/
structure Account (settings : Settings) (result : Answer) (context : Context) (mode : Mode)
    (routines : List Routine) (session : Session) : Prop where
  /-- The format and the mode are those that are named. -/
  opened : openContext settings = .ok (context, mode)
  /-- The session is the one that the settings ask for. -/
  ran : run context settings.library mode settings.options (selection settings) = session
  /-- No fault has ended it. -/
  complete : session.fault = none
  /-- The routines are those that are named. -/
  selected : Selects settings.names routines
  /-- Each of them has one entry. -/
  entries : List.Forall₂ (IsEntry context settings.library mode settings.options) routines
    session.entries
  /-- The verdicts are on those that the library offers. -/
  verdicts : session.verdicts.map Verdict.routine =
    routines.filter (isOffered settings.library context.format)
  /-- The others are skipped. -/
  skipped : session.skipped.map Prod.fst =
    routines.filter fun routine => !isOffered settings.library context.format routine
  /-- The exit code is 1 if some verdict has a failure, and 0 otherwise. -/
  failing : result.exitCode = 1 ↔ ∃ verdict ∈ session.verdicts, verdict.failures ≠ []
  passing : result.exitCode = 0 ↔ ∀ verdict ∈ session.verdicts, verdict.failures = []
  /-- The numbers of routines that are checked and skipped add up to that of all routines. -/
  totals : session.verdicts.length + session.skipped.length = routines.length
  /-- The result has a block for each verdict, or for each one with failures, then a line for each
  routine that is skipped, unless it is quiet, and a last line with the numbers. -/
  output : ∃ blocks, List.Forall₂ (Shows settings.every)
      (if settings.quiet then session.verdicts.filter fun verdict => verdict.failures ≠ []
        else session.verdicts) blocks ∧
    Prints result.output (blocks.flatten ++
      (if settings.quiet then [] else session.skipped.map fun (routine, reason) =>
        routine.name ++ " " ++ context.format.name ++ ": skipped, " ++ reason) ++
      [toString session.verdicts.length ++ " functions checked with " ++ settings.library.name ++
        ", " ++ toString (session.verdicts.filter fun verdict => verdict.failures ≠ []).length ++
        " failed, " ++ toString session.skipped.length ++ " skipped"])
  /-- The progress has a mark for each routine, after the warning that there is for it. -/
  progress : result.errors = String.join (session.events.map fun
    | .warned text => text
    | .checked verdict => if verdict.failures = [] then "." else "!"
    | .skipped _ _ => "-") ++ "\n"

/-! ## Faults -/

theorem isTold_eq_true {fault : Fault} (told : fault.IsTold) : isTold fault = true := by
  rcases told with format | value
  · simp [isTold, format]
  · simp [isTold, value]

/-- A fault that is told gives the exit code 2. -/
theorem stopped_of_isTold {fault : Fault} (told : fault.IsTold) (shown : String) :
    ∃ refusal, stopped shown fault = .ok refusal ∧ refusal.exitCode = 2 := by
  rw [stopped, if_pos (isTold_eq_true told)]
  exact ⟨_, rfl, rfl⟩

theorem ofName_endsTold (precision : String) :
    EndsTold (Context.ofName (.text precision) .nearestEven) := by
  refine .bind ?_ fun named _ => .ok _
  unfold NamedFormat.parse
  rw [toName_text]
  refine .bind (.ok _) fun name _ => ?_
  split
  · exact .ok _
  · exact .error (Or.inl rfl)

theorem parseMode_endsTold (rounding : String) : EndsTold (Mode.parse (.text rounding)) := by
  unfold Mode.parse
  rw [toName_text]
  refine .bind (.ok _) fun name _ => ?_
  split
  · exact .ok _
  · exact .error (Or.inr rfl)

/-- The names of the settings stand for a format and a mode, or one of them is told to be
unknown. -/
theorem openContext_cases (settings : Settings) :
    (∃ fault, openContext settings = .error fault ∧ fault.IsTold) ∨
      ∃ context mode, openContext settings = .ok (context, mode) ∧ IsNamed context := by
  have told : EndsTold (openContext settings) :=
    .bind (ofName_endsTold _) fun context _ => .bind (parseMode_endsTold _) fun mode _ => .ok _
  cases opened : openContext settings with
  | error fault => exact Or.inl ⟨fault, rfl, told fault opened⟩
  | ok pair =>
    obtain ⟨context, named, opened⟩ := bind_eq_ok_iff.mp opened
    obtain ⟨mode, -, same⟩ := bind_eq_ok_iff.mp opened
    rw [← Except.ok.inj same]
    exact Or.inr ⟨context, mode, rfl, isNamed_of_ofName named⟩

/-! ## Selections -/

/-- The routines that settings select. -/
def selected (settings : Settings) : Except Fault (List Routine) :=
  (selection settings).elim (.ok Routine.all) selectRoutines

theorem selected_eq (settings : Settings) : selected settings =
    if settings.names = [] then .ok Routine.all
      else selectRoutines (settings.names.map .text) := by
  unfold selected selection
  split <;> simp_all

theorem selected_endsTold (settings : Settings) : EndsTold (selected settings) := by
  rw [selected_eq]
  split
  · exact .ok _
  · exact selectRoutines_endsTold _

theorem selects_of_selected {settings : Settings} {routines : List Routine}
    (given : selected settings = .ok routines) : Selects settings.names routines := by
  rw [selected_eq] at given
  split at given
  · next none =>
    rw [none, ← Except.ok.inj given]
    exact selects_all
  · next some => exact selects_of_selectRoutines given some

/-! ## Answers -/

theorem not_passed_eq (verdict : Verdict) :
    (!verdict.passed) = decide (verdict.failures ≠ []) := by
  rw [Bool.eq_iff_iff, Bool.not_eq_true', ← Bool.not_eq_true, Verdict.passed_iff, decide_eq_true_iff]

theorem failedCount_eq (session : Session) :
    failedCount session =
      (session.verdicts.filter fun verdict => verdict.failures ≠ []).length := by
  unfold failedCount
  simp only [not_passed_eq]

theorem failedCount_eq_zero_iff (session : Session) :
    failedCount session = 0 ↔ ∀ verdict ∈ session.verdicts, verdict.failures = [] := by
  simp [failedCount_eq, List.filter_eq_nil_iff]

theorem shownVerdicts_eq (settings : Settings) (session : Session) :
    shownVerdicts settings session =
      if settings.quiet then session.verdicts.filter fun verdict => verdict.failures ≠ []
        else session.verdicts := by
  unfold shownVerdicts
  simp only [not_passed_eq, Bool.not_and]
  cases settings.quiet with
  | false => exact List.filter_eq_self.mpr fun _ _ => rfl
  | true => rfl

theorem progress_eq (session : Session) :
    progress session = String.join (session.events.map fun
      | .warned text => text
      | .checked verdict => if verdict.failures = [] then "." else "!"
      | .skipped _ _ => "-") := by
  refine congrArg String.join (List.map_congr_left fun event _ => ?_)
  cases event with
  | warned | skipped => rfl
  | checked verdict => exact if_congr Verdict.passed_iff rfl rfl

/-- A session that went to its end gives an answer that accounts for its routines. -/
theorem exists_account {settings : Settings} {context : Context} {mode : Mode}
    {routines : List Routine} {session : Session}
    (opened : openContext settings = .ok (context, mode)) (named : IsNamed context)
    (given : selected settings = .ok routines)
    (ran : run context settings.library mode settings.options (selection settings) = session)
    (complete : session.fault = none)
    (entries : List.Forall₂ (IsEntry context settings.library mode settings.options) routines
      session.entries) :
    ∃ result, conclude settings context.format session = .ok result ∧ result.exitCode ≠ 2 ∧
      Account settings result context mode routines session := by
  obtain ⟨blocks, written⟩ : ∃ blocks, (shownVerdicts settings session).mapM
      (Verdict.report · settings.every) = .ok blocks := by
    refine exists_mapM fun verdict member => ?_
    obtain ⟨routine, -, entry⟩ :=
      isEntry_of_mem_verdicts entries (List.mem_of_mem_filter member)
    exact entry.exists_report named settings.every
  have shows : List.Forall₂ (Shows settings.every) (shownVerdicts settings session) blocks :=
    (mapM_eq_ok_iff.mp written).imp fun _ _ => shows_of_report
  have concluded : conclude settings context.format session = .ok
      ⟨if failedCount session = 0 then 0 else 1,
        textOfLines (blocks.flatten ++ skippedLines settings context.format session ++
          [countLine settings.library session]), progress session ++ "\n"⟩ := by
    unfold conclude
    rw [complete]
    exact bind_eq_ok_iff.mpr ⟨blocks, written, rfl⟩
  have failures : failedCount session ≠ 0 ↔
      ∃ verdict ∈ session.verdicts, verdict.failures ≠ [] := by
    rw [ne_eq, failedCount_eq_zero_iff]
    push Not
    rfl
  refine ⟨_, concluded, ?_, opened, ran, complete, selects_of_selected given, entries,
    verdicts_of_entries entries, skipped_of_entries entries, ?_, ?_, length_of_entries entries,
    ⟨blocks, ?_, ?_⟩, ?_⟩
  · dsimp only
    split <;> decide
  · rw [← failures]
    dsimp only
    split <;> simp_all
  · rw [← failedCount_eq_zero_iff]
    dsimp only
    split <;> simp_all
  · rw [← shownVerdicts_eq]
    exact shows
  · rw [← failedCount_eq]
    exact prints_textOfLines _
  · rw [← progress_eq]

/-- An answer refuses the settings, or it accounts for the selected routines. -/
theorem answer_cases (settings : Settings) :
    (∃ refusal, answer settings = .ok refusal ∧ refusal.exitCode = 2) ∨
      ∃ result context mode routines session, answer settings = .ok result ∧
        result.exitCode ≠ 2 ∧ selected settings = .ok routines ∧
          Account settings result context mode routines session := by
  unfold answer
  rcases openContext_cases settings with ⟨fault, refused, told⟩ | ⟨context, mode, opened, named⟩
  · rw [refused]
    exact Or.inl (stopped_of_isTold told _)
  rw [opened]
  dsimp only
  have numeric : settings.options = ⟨settings.maxUlps.map .int, settings.flushSubnormals⟩ := rfl
  rcases run_cases settings.library mode numeric named (selected_endsTold settings) with
    ⟨fault, ended, told⟩ | ⟨complete, routines, given, entries⟩
  · unfold conclude
    rw [ended]
    exact Or.inl (stopped_of_isTold told _)
  · obtain ⟨result, concluded, accepts, account⟩ :=
      exists_account opened named given rfl complete entries
    exact Or.inr ⟨result, context, mode, routines, _, concluded, accepts, given, account⟩

theorem answer_of_selected {settings : Settings} {context : Context} {mode : Mode}
    {routines : List Routine} (opened : openContext settings = .ok (context, mode))
    (given : selected settings = .ok routines) :
    answer settings = conclude settings context.format
      (runFrom context settings.library mode settings.options {} routines) := by
  unfold selected at given
  unfold answer run
  rw [opened, given]

/-- A run in the environments in force gives the answer, and leaves these as they were. -/
theorem on_perform (settings : Settings) (stack : EnvironmentStack) :
    (perform settings).on stack = (answer settings, stack) := by
  unfold perform answer
  rcases openContext_cases settings with ⟨fault, refused, -⟩ | ⟨context, mode, opened, named⟩
  · rw [refused]
    rfl
  · rw [opened]
    dsimp only
    rw [Action.on_bind, Suite.on_perform named]
    rfl

/-- **The program accounts for every selected routine.** Whatever the settings are, a run ends with an
answer and leaves the environments as they were. If the settings are not refused, each selected
routine is skipped or has a verdict, and the exit code and the lines that are printed agree with
these. Another accepted distance changes no verdict on a routine that accepts none by default, and a
larger one turns no verdict into a failing one. -/
theorem perform_accounts (settings : Settings) (stack : EnvironmentStack) :
    ∃ result, (perform settings).on stack = (.ok result, stack) ∧
      (result.exitCode ≠ 2 → ∃ context mode routines session,
        Account settings result context mode routines session ∧
        ∀ maxUlps other, (perform { settings with maxUlps }).on stack = (.ok other, stack) →
          other.exitCode ≠ 2 → ∃ session',
            Account { settings with maxUlps } other context mode routines session' ∧
            List.Forall₂ (Compares settings.maxUlps maxUlps) session.entries session'.entries) := by
  rw [on_perform]
  rcases answer_cases settings with ⟨refusal, answered, refuses⟩ |
    ⟨result, context, mode, routines, session, answered, -, given, account⟩
  · exact ⟨refusal, by rw [answered], fun accepts => absurd refuses accepts⟩
  refine ⟨result, by rw [answered], fun _ => ⟨context, mode, routines, session, account, ?_⟩⟩
  intro maxUlps other answered' accepts
  have answers : answer { settings with maxUlps } = .ok other := by
    rw [on_perform] at answered'
    exact (Prod.mk.inj answered').1
  rcases answer_cases { settings with maxUlps } with ⟨refusal, refused, refuses⟩ |
    ⟨result', context', mode', routines', session', answered'', -, given', account'⟩
  · obtain rfl := Except.ok.inj (answers.symm.trans refused)
    exact absurd refuses accepts
  obtain rfl := Except.ok.inj (answers.symm.trans answered'')
  -- The format, the mode and the routines do not depend on the accepted distance.
  obtain ⟨rfl, rfl⟩ := Prod.mk.inj (Except.ok.inj (account.opened.symm.trans account'.opened))
  obtain rfl := Except.ok.inj (given.symm.trans given')
  exact ⟨session', account', entries_compare account.entries account'.entries⟩

/-! ## Examples -/

/-- Two routines, one of them named twice, run upward. Only what fails is shown. -/
def upward (maxUlps : Option ℤ) : Settings where
  rounding := "upward"
  maxUlps := maxUlps
  quiet := true
  names := ["Trunc", " RINT", "trunc"]

/-- A half is rounded to the next integer, which the vectors do not expect. -/
def upwardAnswer : Answer where
  exitCode := 1
  output := "rint float(11,64)/float64: 8 run, 2 failed, max 4607182418800017408 ulps [FAILED]\n" ++
    "  #0 rint(0x1.4p+1): expected 0x1p+1, got 0x1.8p+1: tolerance, " ++
    "2251799813685248 ulps, accepted 0\n" ++
    "3 functions checked with mpfr, 1 failed, 0 skipped\n"
  errors := "Warning: rint/float(11,64)/float64 expects rounding mode RNE, running under RTP\n!..\n"

/-- Two machine routines in a format that is too wide for one of them. -/
def wide (fused : Bool) : Settings where
  precision := "extended"
  library := .native fused
  names := ["fabs", "erf"]

/-- What is skipped is told after the verdicts. -/
def wideAnswer : Answer where
  exitCode := 0
  output := "fabs float(15,79)/float128: 4 run, 0 failed, max 0 ulps [ok]\n" ++
    "erf float(15,79)/float128: skipped, " ++
    "erf: only available in double precision, not float(15,79)/float128\n" ++
    "1 functions checked with numpy, 0 failed, 1 skipped\n"
  errors := "-.\n"

theorem selected_of_parsed {settings : Settings} {chosen routines : List Routine}
    (some : settings.names ≠ [])
    (parsed : (settings.names.map .text).mapM Routine.parse = .ok chosen)
    (ordered : inCatalogOrder chosen = routines) : selected settings = .ok routines := by
  rw [selected_eq, if_neg some, selectRoutines, parsed, ← ordered]
  rfl

theorem answer_upward {maxUlps : Option ℤ} (chosen : maxUlps ∈ [none, some 3]) :
    answer (upward maxUlps) = .ok upwardAnswer := by
  have ordered : inCatalogOrder [.trunc, .rint, .trunc] = [.rint, .trunc, .trunc] := by
    simp [inCatalogOrder, List.mergeSort, List.MergeSort.Internal.splitInTwo, Routine.le,
      show Routine.rint.number = 41 by decide, show Routine.trunc.number = 53 by decide]
  have routines : selected (upward maxUlps) = .ok [.rint, .trunc, .trunc] :=
    selected_of_parsed (List.cons_ne_nil _ _) rfl ordered
  have opened : openContext (upward maxUlps) = .ok (⟨Format.double, .nearestEven, []⟩, .up) := by
    unfold openContext
    dsimp only [upward]
    rfl
  have concluded : ∀ maxUlps ∈ [none, some (3 : ℤ)], (conclude (upward maxUlps) Format.double
      (runFrom ⟨Format.double, .nearestEven, []⟩ (upward maxUlps).library .up
        (upward maxUlps).options {} [.rint, .trunc, .trunc])).toOption = some upwardAnswer := by
    decide +kernel
  rw [answer_of_selected opened routines]
  exact toOption_eq_some_iff.mp (concluded maxUlps chosen)

theorem answer_wide (fused : Bool) : answer (wide fused) = .ok wideAnswer := by
  have ordered : inCatalogOrder [.fabs, .erf] = [.erf, .fabs] := by
    simp [inCatalogOrder, List.mergeSort, List.MergeSort.Internal.splitInTwo, Routine.le,
      show Routine.erf.number = 12 by decide, show Routine.fabs.number = 17 by decide]
  have routines : selected (wide fused) = .ok [.erf, .fabs] :=
    selected_of_parsed (List.cons_ne_nil _ _) rfl ordered
  have opened : openContext (wide fused) =
      .ok (⟨Format.extended, .nearestEven, []⟩, .nearestEven) := by
    unfold openContext
    dsimp only [wide]
    rfl
  have concluded : ∀ fused, (conclude (wide fused) Format.extended
      (runFrom ⟨Format.extended, .nearestEven, []⟩ (.native fused) .nearestEven
        (wide fused).options {} [.erf, .fabs])).toOption = some wideAnswer := by
    decide +kernel
  rw [answer_of_selected opened routines]
  exact toOption_eq_some_iff.mp (concluded fused)

/-- A quiet run that fails, with another accepted distance compared, and a run that skips a
routine. -/
theorem perform_accounts_upward :
    (∃ other context mode routines session session',
      (perform (upward none)).on {} = (.ok upwardAnswer, {}) ∧ upwardAnswer.exitCode = 1 ∧
      Account (upward none) upwardAnswer context mode routines session ∧
      Account (upward (some 3)) other context mode routines session' ∧
      List.Forall₂ (Compares none (some 3)) session.entries session'.entries) ∧
    ∀ fused, ∃ context mode routines session,
      (perform (wide fused)).on {} = (.ok wideAnswer, {}) ∧ wideAnswer.exitCode = 0 ∧
      Account (wide fused) wideAnswer context mode routines session := by
  have performed {maxUlps : Option ℤ} (chosen : maxUlps ∈ [none, some 3]) :
      (perform (upward maxUlps)).on {} = (.ok upwardAnswer, {}) := by
    rw [on_perform, answer_upward chosen]
  have performed' (fused : Bool) : (perform (wide fused)).on {} = (.ok wideAnswer, {}) := by
    rw [on_perform, answer_wide fused]
  have accepts : upwardAnswer.exitCode ≠ 2 := by decide
  have accepts' : wideAnswer.exitCode ≠ 2 := by decide
  refine ⟨?_, fun fused => ?_⟩
  · obtain ⟨result, given, accounts⟩ := perform_accounts (upward none) {}
    obtain rfl := Except.ok.inj (Prod.mk.inj (given.symm.trans (performed (by simp)))).1
    obtain ⟨context, mode, routines, session, account, compares⟩ := accounts accepts
    obtain ⟨session', account', compared⟩ :=
      compares (some 3) upwardAnswer (performed (by simp)) accepts
    exact ⟨upwardAnswer, context, mode, routines, session, session', given, rfl, account, account',
      compared⟩
  · obtain ⟨result, given, accounts⟩ := perform_accounts (wide fused) {}
    obtain rfl := Except.ok.inj (Prod.mk.inj (given.symm.trans (performed' fused))).1
    obtain ⟨context, mode, routines, session, account, -⟩ := accounts accepts'
    exact ⟨context, mode, routines, session, given, rfl, account⟩

end LibmAudit.CommandLine
