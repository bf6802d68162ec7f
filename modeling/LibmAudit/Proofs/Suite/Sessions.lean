/-
**What a session accounts for.**

A session goes through the selected routines in the order of the catalog. What it has for each of
them is one entry: the routine is skipped if the library does not offer it, and otherwise it has the
verdict on its built-in table. Faults of formats and values end a session, and no others.

* `Session.entries`, `IsEntry`: the entries, and what is the entry of a routine.
* `checkRoutine_cases`, `runFrom_cases`: what one step adds, and what a whole session adds.
* `Selects`: the routines that names select.
* `run_cases`: a session ends with a fault that is told, or each selected routine has its entry.
* `Compares`, `entries_compare`: what another accepted distance does to the entries.
-/

import LibmAudit.Proofs.Suite.Policies
import LibmAudit.Proofs.Suite.Verdicts

namespace LibmAudit.Suite

/-! ## Entries -/

/-- Whether an event is the entry of a routine. -/
def Event.isEntry : Event → Bool
  | .warned _ => false
  | .checked _ | .skipped _ _ => true

/-- The entries of a session, in their order. -/
def Session.entries (session : Session) : List Event := session.events.filter Event.isEntry

/-- The entry of a routine. -/
inductive IsEntry (context : Context) (kind : LibraryKind) (mode : Mode) (options : Options)
    (routine : Routine) : Event → Prop
  /-- A routine that the library does not offer is skipped. -/
  | skipped {fault : Fault} (missing : kind.lookup routine context.format = .error fault)
      (function : fault.category = .function) :
      IsEntry context kind mode options routine (.skipped routine fault.message)
  /-- Any other routine has the verdict on its built-in table. -/
  | checked {table : Table} {policy : Policy} {verdict : Verdict}
      (provided : kind.lookup routine context.format = .ok ())
      (built : builtInTable context routine = .ok table)
      (chosen : options.policyFor routine = .ok policy)
      (ran : verdictOn table kind mode policy = .ok verdict) :
      IsEntry context kind mode options routine (.checked verdict)

/-- Whether a library offers a routine, as far as the routine is concerned. -/
def isOffered (kind : LibraryKind) (format : Format) (routine : Routine) : Bool :=
  match kind.lookup routine format with
  | .ok _ => true
  | .error fault => fault.category ≠ .function

namespace Session

variable (session : Session)

theorem entries_record (event : Event) :
    (session.record event).entries =
      session.entries ++ if event.isEntry then [event] else [] := by
  show (session.events ++ [event]).filter Event.isEntry = _
  rw [List.filter_append, List.filter_singleton, Bool.cond_eq_ite]
  rfl

theorem verdicts_eq : session.verdicts = session.entries.filterMap fun
    | .checked verdict => some verdict
    | _ => none := by
  rw [entries, List.filterMap_filter]
  refine List.filterMap_congr fun event _ => ?_
  cases event <;> rfl

theorem skipped_eq : session.skipped = session.entries.filterMap fun
    | .skipped routine reason => some (routine, reason)
    | _ => none := by
  rw [entries, List.filterMap_filter]
  refine List.filterMap_congr fun event _ => ?_
  cases event <;> rfl

end Session

variable {context : Context} {kind : LibraryKind} {mode : Mode} {options : Options}

/-- A verdict on a built-in table is of its routine. -/
theorem routine_of_verdictOn {routine : Routine} {table : Table} {policy : Policy}
    {verdict : Verdict} (built : builtInTable context routine = .ok table)
    (ran : verdictOn table kind mode policy = .ok verdict) : verdict.routine = routine := by
  obtain ⟨performance, -, ran⟩ := bind_eq_ok_iff.mp ran
  obtain ⟨-, -, -, rfl⟩ := Table.run_eq_ok_iff.mp ran
  exact (of_builtInTable built).1

section Accounts

variable {routines : List Routine} {session : Session}
  (entries : List.Forall₂ (IsEntry context kind mode options) routines session.entries)

include entries

/-- The verdicts are those of the routines that the library offers, in the same order. -/
theorem verdicts_of_entries : session.verdicts.map Verdict.routine =
    routines.filter (isOffered kind context.format) := by
  rw [session.verdicts_eq]
  generalize session.entries = events at entries
  induction entries with
  | nil => rfl
  | cons entry _ ih =>
    cases entry with
    | skipped missing function =>
      rw [List.filter_cons_of_neg (by simp [isOffered, missing, function])]
      exact ih
    | checked provided built _ ran =>
      rw [List.filter_cons_of_pos (by simp [isOffered, provided]), ← ih,
        ← routine_of_verdictOn built ran]
      rfl

/-- The routines that are skipped are those that the library does not offer, in the same order. -/
theorem skipped_of_entries : session.skipped.map Prod.fst =
    routines.filter fun routine => !isOffered kind context.format routine := by
  rw [session.skipped_eq]
  generalize session.entries = events at entries
  induction entries with
  | nil => rfl
  | cons entry _ ih =>
    cases entry with
    | skipped missing function =>
      rw [List.filter_cons_of_pos (by simp [isOffered, missing, function]), ← ih]
      rfl
    | checked provided _ _ _ =>
      rw [List.filter_cons_of_neg (by simp [isOffered, provided])]
      exact ih

/-- A verdict is the entry of a routine. -/
theorem isEntry_of_mem_verdicts {verdict : Verdict} (member : verdict ∈ session.verdicts) :
    ∃ routine ∈ routines, IsEntry context kind mode options routine (.checked verdict) := by
  rw [session.verdicts_eq] at member
  obtain ⟨event, among, same⟩ := List.mem_filterMap.mp member
  have entry : event = .checked verdict := by
    cases event with
    | checked other => exact congrArg Event.checked (Option.some.inj same)
    | warned | skipped => exact absurd same nofun
  rw [entry] at among
  generalize session.entries = events at entries among
  induction entries with
  | nil => exact absurd among List.not_mem_nil
  | cons here _ ih =>
    rcases List.mem_cons.mp among with rfl | further
    · exact ⟨_, List.mem_cons_self, here⟩
    · obtain ⟨routine, inside, there⟩ := ih further
      exact ⟨routine, List.mem_cons_of_mem _ inside, there⟩

/-- The two numbers of entries add up to the number of routines. -/
theorem length_of_entries :
    session.verdicts.length + session.skipped.length = routines.length := by
  rw [← List.length_map Verdict.routine, verdicts_of_entries entries,
    ← List.length_map Prod.fst, skipped_of_entries entries]
  exact (List.length_eq_length_filter_add _).symm

end Accounts

/-- The verdict of a routine has its report. -/
theorem IsEntry.exists_report (named : IsNamed context) {routine : Routine} {verdict : Verdict}
    (entry : IsEntry context kind mode options routine (.checked verdict)) (every : Bool) :
    ∃ block, verdict.report every = .ok block := by
  cases entry with
  | checked provided built _ ran =>
    rcases builtInTable_cases named routine with ⟨fault, failed, -⟩ | ⟨table, made, builtIn⟩
    · exact absurd (built.symm.trans failed) nofun
    · obtain rfl := Except.ok.inj (built.symm.trans made)
      exact Suite.exists_report builtIn provided ran every

/-! ## Steps -/

/-- What a library does not offer, it lacks for the format or for the routine. -/
theorem category_of_lookup (kind : LibraryKind) (routine : Routine) (format : Format)
    {fault : Fault} (missing : kind.lookup routine format = .error fault) :
    fault.category = .format ∨ fault.category = .function := by
  cases kind with
  | reference =>
    change Reference.lookup format = .error fault at missing
    unfold Reference.lookup at missing
    split at missing
    · exact absurd missing nofun
    · exact Or.inl (by rw [← Except.error.inj missing]; rfl)
  | native fused =>
    change Native.lookup fused routine format = .error fault at missing
    unfold Native.lookup at missing
    split at missing
    · exact Or.inl (by rw [← Except.error.inj missing]; rfl)
    split at missing
    · exact Or.inr (by rw [← Except.error.inj missing]; rfl)
    split at missing
    · exact Or.inr (by rw [← Except.error.inj missing]; rfl)
    · exact absurd missing nofun

/-- A session that a fault has ended does not go on. -/
theorem runFrom_of_fault {session : Session} {fault : Fault} (ended : session.fault = some fault)
    (routines : List Routine) :
    runFrom context kind mode options session routines = session := by
  cases routines with
  | nil => rfl
  | cons routine rest => rw [runFrom, ended]

section Numeric

variable {maxUlps : Option ℤ} {flushSubnormals : Bool}

theorem policyFor_endsTold (given : options = ⟨maxUlps.map .int, flushSubnormals⟩)
    (routine : Routine) : EndsTold (options.policyFor routine) := by
  rw [given, policyFor_eq]
  split
  · exact .refuse (Or.inr rfl)
  · exact .ok _

/-- The policy that is chosen for a routine. -/
theorem policyFor_eq_ok (given : options = ⟨maxUlps.map .int, flushSubnormals⟩)
    {routine : Routine} {policy : Policy} (chosen : options.policyFor routine = .ok policy) :
    policy = { Policy.default routine with
      maxUlps := .steps (accepted maxUlps routine).toNat, flushSubnormals } := by
  rw [given, policyFor_eq] at chosen
  split at chosen
  · exact absurd chosen nofun
  · exact (Except.ok.inj chosen).symm

variable (given : options = ⟨maxUlps.map .int, flushSubnormals⟩) (named : IsNamed context)

include given

theorem checkTable_cases {routine : Routine} {table : Table} (session : Session)
    (builtIn : IsBuiltIn context routine table) (built : builtInTable context routine = .ok table)
    (provided : kind.lookup routine context.format = .ok ()) :
    (∃ fault, (checkTable kind mode options session table).fault = some fault ∧
        fault.IsTold) ∨
      (checkTable kind mode options session table).fault = session.fault ∧
        ∃ entry, IsEntry context kind mode options routine entry ∧
          (checkTable kind mode options session table).entries = session.entries ++ [entry] := by
  unfold checkTable
  rw [builtIn.routine_eq]
  cases chosen : options.policyFor routine with
  | error fault => exact Or.inl ⟨fault, rfl, policyFor_endsTold given routine fault chosen⟩
  | ok policy =>
    have wide : policy.checked.length = routine.shape.outputs.length := by
      rw [policyFor_eq_ok given chosen]
      exact List.length_map _
    -- A warning is no entry.
    have warned (text : String) : (if text.isEmpty = true then session
          else session.record (.warned text)).fault = session.fault ∧
        (if text.isEmpty = true then session else session.record (.warned text)).entries =
          session.entries := by
      split
      · exact ⟨rfl, rfl⟩
      · exact ⟨rfl, (session.entries_record _).trans (List.append_nil _)⟩
    dsimp only
    cases ran : verdictOn table kind mode policy with
    | error fault =>
      exact Or.inl ⟨fault, rfl, verdictOn_endsTold builtIn provided wide fault ran⟩
    | ok verdict =>
      obtain ⟨ended, before⟩ := warned (table.warning policy mode)
      refine Or.inr ⟨ended, .checked verdict, .checked provided built chosen ran, ?_⟩
      dsimp only
      rw [Session.entries_record, before]
      rfl

include named

/-- One step ends the session with a fault that is told, or adds the entry of the routine. -/
theorem checkRoutine_cases (session : Session) (routine : Routine) :
    (∃ fault, (checkRoutine context kind mode options session routine).fault = some fault ∧
        fault.IsTold) ∨
      (checkRoutine context kind mode options session routine).fault = session.fault ∧
        ∃ entry, IsEntry context kind mode options routine entry ∧
          (checkRoutine context kind mode options session routine).entries =
            session.entries ++ [entry] := by
  unfold checkRoutine
  rcases builtInTable_cases named routine with ⟨fault, failed, told⟩ | ⟨table, built, builtIn⟩
  · rw [failed]
    exact Or.inl ⟨fault, rfl, Or.inl told⟩
  rw [built]
  dsimp only
  cases provided : kind.lookup routine context.format with
  | ok _ => exact checkTable_cases given session builtIn built provided
  | error fault =>
    dsimp only
    split
    · next function =>
      exact Or.inr ⟨rfl, _, .skipped provided function, session.entries_record _⟩
    · next other =>
      refine Or.inl ⟨fault, rfl, Or.inl ?_⟩
      exact (category_of_lookup kind routine _ provided).resolve_right other

/-- A session ends with a fault that is told, or adds the entries of all its routines. -/
theorem runFrom_cases (routines : List Routine) {session : Session} (goes : session.fault = none) :
    (∃ fault, (runFrom context kind mode options session routines).fault = some fault ∧
        fault.IsTold) ∨
      (runFrom context kind mode options session routines).fault = none ∧
        ∃ entries, List.Forall₂ (IsEntry context kind mode options) routines entries ∧
          (runFrom context kind mode options session routines).entries =
            session.entries ++ entries := by
  induction routines generalizing session with
  | nil => exact Or.inr ⟨goes, [], .nil, (List.append_nil _).symm⟩
  | cons routine rest ih =>
    rw [runFrom, goes]
    dsimp only
    rcases checkRoutine_cases given named session routine with
      ⟨fault, ended, told⟩ | ⟨same, entry, isEntry, added⟩
    · rw [runFrom_of_fault ended]
      exact Or.inl ⟨fault, ended, told⟩
    · refine (ih (same.trans goes)).imp_right fun ⟨goesOn, entries, areEntries, all⟩ => ?_
      refine ⟨goesOn, entry :: entries, .cons isEntry areEntries, ?_⟩
      rw [all, added, List.append_assoc]
      rfl

variable (kind mode) in
/-- A session ends with a fault that is told, or has an entry for each selected routine. -/
theorem run_cases {names : Option (List Datum)}
    (selects : EndsTold (names.elim (.ok Routine.all) selectRoutines)) :
    (∃ fault, (run context kind mode options names).fault = some fault ∧ fault.IsTold) ∨
      (run context kind mode options names).fault = none ∧
        ∃ routines, names.elim (.ok Routine.all) selectRoutines = .ok routines ∧
          List.Forall₂ (IsEntry context kind mode options) routines
            (run context kind mode options names).entries := by
  unfold run
  cases selected : names.elim (.ok Routine.all) selectRoutines with
  | error fault => exact Or.inl ⟨fault, rfl, selects fault selected⟩
  | ok routines =>
    refine (runFrom_cases given named routines rfl).imp_right
      fun ⟨goes, entries, areEntries, all⟩ => ⟨goes, routines, rfl, ?_⟩
    rw [all]
    exact areEntries

end Numeric

/-! ## Selections -/

/-- The routines that names select. -/
structure Selects (names : List String) (routines : List Routine) : Prop where
  /-- They are in the order of the catalog. -/
  ordered : routines.Pairwise fun first second => first.number ≤ second.number
  /-- Without a name, these are all routines. -/
  all : names = [] → routines = Routine.all
  /-- A routine is selected as often as it is named; blanks around a name and its case do not
  count. -/
  named : names ≠ [] → ∃ chosen, routines.Perm chosen ∧
    List.Forall₂ (fun name routine => nameOf name = routine.name) names chosen

theorem toName_text (name : String) : Datum.toName (.text name) = .ok (nameOf name) := rfl

theorem ofName?_eq_some_iff {name : String} {routine : Routine} :
    Routine.ofName? name = some routine ↔ name = routine.name := by
  constructor
  · intro found
    obtain ⟨entry, search, rfl⟩ := Option.map_eq_some_iff.mp found
    have names : ∀ entry ∈ Routine.catalog, entry.1.name = entry.2 := by decide
    have same := List.find?_some search
    rw [names entry (List.mem_of_find?_eq_some search)]
    exact (of_decide_eq_true same).symm
  · rintro rfl
    cases routine <;> rfl

theorem parse_eq (name : String) : Routine.parse (.text name) =
    match Routine.ofName? (nameOf name) with
    | some routine => .ok routine
    | none => .error (.unknownFunction (.text name)) := by
  unfold Routine.parse
  rw [toName_text]
  dsimp only [bind, Except.bind]
  cases Routine.ofName? (nameOf name) <;> rfl

theorem parse_eq_ok_iff {name : String} {routine : Routine} :
    Routine.parse (.text name) = .ok routine ↔ nameOf name = routine.name := by
  rw [parse_eq, ← ofName?_eq_some_iff]
  cases Routine.ofName? (nameOf name) with
  | none => exact iff_of_false nofun nofun
  | some other => exact ⟨fun same => congrArg some (Except.ok.inj same),
      fun same => congrArg Except.ok (Option.some.inj same)⟩

theorem inCatalogOrder_ordered (selection : List Routine) :
    (inCatalogOrder selection).Pairwise fun first second => first.number ≤ second.number := by
  have transitive (first second third : Routine) (before : first.le second = true)
      (after : second.le third = true) : first.le third = true :=
    decide_eq_true ((of_decide_eq_true before).trans (of_decide_eq_true after))
  have total (first second : Routine) : (first.le second || second.le first) = true := by
    simpa [Routine.le] using Nat.le_total first.number second.number
  exact (List.pairwise_mergeSort transitive total selection).imp fun before =>
    of_decide_eq_true before

/-- Names select routines, or one of them is told to be unknown. -/
theorem selectRoutines_endsTold (names : List String) :
    EndsTold (selectRoutines (names.map .text)) := by
  refine .map (.mapM fun name member => ?_) _
  obtain ⟨text, -, rfl⟩ := List.mem_map.mp member
  rw [parse_eq]
  split
  · exact .ok _
  · exact .error (Or.inr rfl)

theorem selects_of_selectRoutines {names : List String} {routines : List Routine}
    (selected : selectRoutines (names.map .text) = .ok routines) (some : names ≠ []) :
    Selects names routines := by
  obtain ⟨chosen, parsed, rfl⟩ := map_eq_ok_iff.mp selected
  refine ⟨inCatalogOrder_ordered chosen, fun none => absurd none some, fun _ => ⟨chosen, ?_, ?_⟩⟩
  · exact List.mergeSort_perm chosen _
  · exact (List.forall₂_map_left_iff.mp (mapM_eq_ok_iff.mp parsed)).imp
      fun _ _ => parse_eq_ok_iff.mp

theorem selects_all : Selects [] Routine.all where
  ordered := by decide +kernel
  all _ := rfl
  named some := absurd rfl some

/-! ## Other accepted distances -/

/-- An entry, and the entry of the same routine in a session with another accepted distance. -/
inductive Compares (maxUlps maxUlps' : Option ℤ) : Event → Event → Prop
  | skipped (routine : Routine) (reason : String) :
      Compares maxUlps maxUlps' (.skipped routine reason) (.skipped routine reason)
  /-- The verdict on a routine that accepts no distance by default stays. A verdict without a
  failure stays so when the accepted distance is raised. -/
  | checked {verdict verdict' : Verdict} (same : verdict'.routine = verdict.routine)
      (stays : verdict.routine.category.maxUlps = 0 → verdict' = verdict)
      (raised : accepted maxUlps verdict.routine ≤ accepted maxUlps' verdict.routine →
        verdict.passed = true → verdict'.passed = true) :
      Compares maxUlps maxUlps' (.checked verdict) (.checked verdict')

theorem accepted_of_exact {routine : Routine} (none : routine.category.maxUlps = 0)
    (maxUlps : Option ℤ) : accepted maxUlps routine = 0 := if_pos none

/-- A verdict without a failure stays so with a larger tolerance. -/
theorem passed_of_widened {routine : Routine} {table : Table} {policy : Policy}
    {tolerance : Tolerance} {verdict verdict' : Verdict}
    (built : builtInTable context routine = .ok table)
    (provided : kind.lookup routine context.format = .ok ())
    (wider : policy.maxUlps.count ≤ tolerance.count)
    (ran : verdictOn table kind mode policy = .ok verdict) (passes : verdict.passed = true)
    (ran' : verdictOn table kind mode { policy with maxUlps := tolerance } = .ok verdict') :
    verdict'.passed = true := by
  obtain ⟨rfl, rfl⟩ := of_builtInTable built
  rw [verdictOn_eq provided] at ran ran'
  obtain ⟨widened, ranWidened, passesWidened⟩ := Table.run_widened wider ran passes
  obtain rfl := Except.ok.inj (ranWidened.symm.trans ran')
  exact passesWidened

/-- The entries of a routine for two accepted distances. -/
theorem IsEntry.compares {maxUlps maxUlps' : Option ℤ} {flushSubnormals : Bool} {routine : Routine}
    {entry entry' : Event}
    (first : IsEntry context kind mode ⟨maxUlps.map .int, flushSubnormals⟩ routine entry)
    (second : IsEntry context kind mode ⟨maxUlps'.map .int, flushSubnormals⟩ routine entry') :
    Compares maxUlps maxUlps' entry entry' := by
  cases first with
  | skipped missing function =>
    cases second with
    | skipped missing' function' =>
      obtain rfl := Except.error.inj (missing.symm.trans missing')
      exact .skipped _ _
    | checked provided' => exact absurd (missing.symm.trans provided') nofun
  | @checked table policy verdict provided built chosen ran =>
    cases second with
    | skipped missing' => exact absurd (provided.symm.trans missing') nofun
    | @checked table' policy' verdict' provided' built' chosen' ran' =>
      obtain rfl := Except.ok.inj (built.symm.trans built')
      have ofRoutine := routine_of_verdictOn built ran
      refine .checked ((routine_of_verdictOn built ran').trans ofRoutine.symm) ?_ ?_
      · intro none
        rw [ofRoutine] at none
        have policies : policy = policy' := by
          rw [policyFor_eq_ok rfl chosen, policyFor_eq_ok rfl chosen', accepted_of_exact none,
            accepted_of_exact none]
        rw [policies] at ran
        exact Except.ok.inj (ran'.symm.trans ran)
      · intro wider passes
        rw [ofRoutine] at wider
        rw [policyFor_eq_ok rfl chosen] at ran
        rw [policyFor_eq_ok rfl chosen'] at ran'
        refine passed_of_widened built provided ?_ ran passes ran'
        exact Int.toNat_le_toNat wider

theorem entries_compare {maxUlps maxUlps' : Option ℤ} {flushSubnormals : Bool}
    {routines : List Routine} {entries entries' : List Event}
    (first : List.Forall₂ (IsEntry context kind mode ⟨maxUlps.map .int, flushSubnormals⟩)
      routines entries)
    (second : List.Forall₂ (IsEntry context kind mode ⟨maxUlps'.map .int, flushSubnormals⟩)
      routines entries') :
    List.Forall₂ (Compares maxUlps maxUlps') entries entries' := by
  induction first generalizing entries' with
  | nil =>
    cases second
    exact .nil
  | cons entry _ ih =>
    cases second with
    | cons entry' rest => exact .cons (entry.compares entry') (ih rest)

end LibmAudit.Suite
