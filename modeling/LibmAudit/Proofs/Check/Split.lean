/-
**Runs in two parts.**

The rows of a table can be split into two tables. A run of the whole table is then a run of both
parts, one after the other, and its verdict is put together from theirs: the second part numbers its
vectors from zero, so that their positions are moved on.

* `Vector.shift`, `Failure.shift`, `Verdict.append`: positions moved on, and verdicts put together.
* `Table.Splits`, `Table.exists_splits`: the parts of a table that is made from rows.
* `Table.Splits.account_append`, `run_iff`: the verdict of the whole table.
* `Verdict.failed_append`: no vector is counted in both parts.
* `Table.accounts_of_run`: the verdict of a run is its account.
* `Table.run_accounts`: a verdict is the exact account of its run, and the parts make up the whole.
-/

import LibmAudit.Proofs.Check.Account
import LibmAudit.Proofs.Check.Rows

namespace LibmAudit

/-! ## Positions that are moved on -/

/-- A vector that is moved on. -/
def Vector.shift (count : ℕ) (vector : Vector) : Vector :=
  { vector with index := vector.index + count }

/-- A failure of a vector that is moved on. -/
def Failure.shift (count : ℕ) (failure : Failure) : Failure :=
  { failure with index := failure.index + count }

/-- What is found in vectors that are moved on. -/
def Tally.shift (count : ℕ) (tally : Tally) : Tally :=
  { tally with failures := tally.failures.map (Failure.shift count) }

/-- A trial of a vector that is moved on. -/
def Trial.shift (count : ℕ) (trial : Trial) : Trial :=
  { trial with vector := trial.vector.shift count }

/-- The verdict on two parts of a table. The vectors of the second part follow those of the first. -/
def Verdict.append (first second : Verdict) : Verdict :=
  { first with
    ran := first.ran + second.ran
    failures := first.failures ++ second.failures.map (Failure.shift first.ran)
    maxUlps := max first.maxUlps second.maxUlps }

theorem Tally.shift_append (count : ℕ) (first second : Tally) :
    (first.append second).shift count = (first.shift count).append (second.shift count) := by
  simp [shift, append]

theorem Judgement.tally_shift (judgement : Judgement) (count : ℕ) (vector : Vector) (output : ℕ)
    (expected : SlotValue) :
    judgement.tally (vector.shift count) output expected =
      (judgement.tally vector output expected).shift count := by
  unfold tally record Tally.shift
  rw [List.map_map]
  rfl

/-- The outputs of a vector that is moved on are compared in the same way. -/
theorem trialsFrom_shift (count : ℕ) (vector : Vector) (output : ℕ) (flags : List Bool)
    (expected : List (Option SlotValue)) (returned : List Value) :
    trialsFrom (vector.shift count) output flags expected returned =
      (trialsFrom vector output flags expected returned).map (Trial.shift count) := by
  induction flags generalizing output expected returned with
  | nil => rfl
  | cons checked flags ih =>
    cases expected with
    | nil => rfl
    | cons wanted others =>
      cases returned with
      | nil => rfl
      | cons result rest =>
        rw [trialsFrom, trialsFrom, List.map_append, ih]
        cases checked <;> cases wanted <;> rfl

namespace Trial

variable {table : Table} {policy : Policy}

/-- A comparison depends on the routine and the format of the table only. -/
theorem check_congr {other : Table} (routine : other.routine = table.routine)
    (context : other.context = table.context) (trial : Trial) :
    trial.check other policy = trial.check table policy := by
  rw [check_eq, check_eq, routine, context]

theorem check_shift (count : ℕ) (trial : Trial) :
    (trial.shift count).check table policy =
      (trial.check table policy).map (Tally.shift count) := by
  rw [check_eq, check_eq]
  unfold shift
  dsimp only
  cases judgeOutput table.routine table.context.format policy trial.expected trial.result with
  | error fault => rfl
  | ok judgement => exact congrArg Except.ok (judgement.tally_shift count _ _ _)

theorem exists_check_shift_iff (count : ℕ) {trial : Trial} :
    (∃ found, (trial.shift count).check table policy = .ok found) ↔
      ∃ found, trial.check table policy = .ok found := by
  simp only [check_shift, map_eq_ok_iff]
  exact ⟨fun ⟨_, found, checked, _⟩ => ⟨found, checked⟩,
    fun ⟨found, checked⟩ => ⟨_, found, checked, rfl⟩⟩

theorem found_shift (count : ℕ) (trial : Trial) :
    (trial.shift count).found table policy = (trial.found table policy).shift count := by
  unfold found
  rw [check_shift]
  cases trial.check table policy <;> rfl

end Trial

section Collect

variable {table : Table} {policy : Policy}

theorem collect_congr {other : Table} (routine : other.routine = table.routine)
    (context : other.context = table.context) (trials : List Trial) (tally : Tally) :
    collect other policy trials tally = collect table policy trials tally := by
  have same : Trial.found other policy = Trial.found table policy := by
    funext trial
    rw [Trial.found, Trial.found, Trial.check_congr routine context]
  rw [collect, collect, same]

theorem collect_append (first second : List Trial) :
    collect table policy (first ++ second) {} =
      (collect table policy first {}).append (collect table policy second {}) := by
  rw [collect, List.foldl_append]
  exact collect_eq second _

theorem collect_shift (count : ℕ) (trials : List Trial) :
    collect table policy (trials.map (Trial.shift count)) {} =
      (collect table policy trials {}).shift count := by
  induction trials with
  | nil => rfl
  | cons trial rest ih =>
    rw [List.map_cons, collect_cons, collect_cons, ih, Trial.found_shift, Tally.shift_append]

end Collect

/-! ## Splitting rows -/

namespace Table

/-- A table consists of the vectors of two tables for the same routine and format. -/
structure Splits (table left right : Table) : Prop where
  routine : left.routine = table.routine ∧ right.routine = table.routine
  context : left.context = table.context ∧ right.context = table.context
  vectors : table.vectors = left.vectors ++ right.vectors.map (Vector.shift left.vectors.length)

section Rows

variable {routine : Routine} {format : Format} {context : Context}

theorem decodeRow_shift (index count : ℕ) (row : Value) :
    decodeRow routine format (index + count) row =
      (decodeRow routine format index row).map (Vector.shift count) := by
  cases row with
  | tuple entries =>
    unfold decodeRow decodeEntries
    dsimp only
    split
    · rfl
    · cases decodeAll (decodeExpected format) routine.shape.outputs
          (entries.take routine.shape.outputs.length) with
      | error fault => rfl
      | ok expected =>
        cases decodeAll (decodeInput format) routine.shape.inputs
            (entries.drop routine.shape.outputs.length) with
        | error fault => rfl
        | ok inputs => rfl
  | _ => rfl

/-- Rows that are decoded are decoded from every position, under every name of the table. -/
theorem exists_decodeRows {name : String} (other : String) {index count : ℕ} {rows : List Value}
    {vectors : List Vector}
    (decoded : decodeRows routine format name (index + count) rows = .ok vectors) :
    ∃ others, decodeRows routine format other index rows = .ok others ∧
      vectors = others.map (Vector.shift count) := by
  induction rows generalizing index vectors with
  | nil => exact ⟨[], rfl, (Except.ok.inj decoded).symm⟩
  | cons row rest ih =>
    rw [decodeRows, bind_eq_ok_iff] at decoded
    obtain ⟨_, here, decoded⟩ := decoded
    obtain ⟨vectors, there, rfl⟩ := map_eq_ok_iff.mp decoded
    rw [mapError_eq_ok_iff, decodeRow_shift, map_eq_ok_iff] at here
    obtain ⟨vector, here, rfl⟩ := here
    rw [Nat.add_right_comm] at there
    obtain ⟨others, same, rfl⟩ := ih there
    refine ⟨vector :: others, ?_, rfl⟩
    rw [decodeRows, bind_eq_ok_iff]
    exact ⟨vector, mapError_eq_ok_iff.mpr here, map_eq_ok_iff.mpr ⟨others, same, rfl⟩⟩

theorem decodeRows_append {name : String} {index : ℕ} {first second : List Value}
    {vectors : List Vector}
    (decoded : decodeRows routine format name index (first ++ second) = .ok vectors) :
    ∃ left right, decodeRows routine format name index first = .ok left ∧
      decodeRows routine format name (index + first.length) second = .ok right ∧
        vectors = left ++ right := by
  simp only [decodeRows_eq_mapM] at decoded ⊢
  rw [List.zipIdx_append, List.mapM_append, bind_eq_ok_iff] at decoded
  obtain ⟨left, here, decoded⟩ := decoded
  obtain ⟨right, there, rfl⟩ := map_eq_ok_iff.mp decoded
  exact ⟨left, right, here, there, rfl⟩

/-- The rows of a table that is made. -/
theorem decodeRows_of_ofRows {rows : List Value} {name : Option String} {table : Table}
    (built : ofRows routine context rows name = .ok table) :
    context.format.carrier?.isNone = false ∧ table.routine = routine ∧ table.context = context ∧
      decodeRows routine context.format (name.getD (defaultName routine context.format)) 0 rows =
        .ok table.vectors := by
  unfold ofRows at built
  dsimp only at built
  split at built
  · exact absurd built nofun
  · next stored =>
    obtain ⟨vectors, decoded, rfl⟩ := map_eq_ok_iff.mp built
    exact ⟨eq_false_of_ne_true stored, rfl, rfl, decoded⟩

/-- The vectors of a table that is made are numbered, one for each row. -/
theorem isNumbered_of_ofRows {rows : List Value} {name : Option String} {table : Table}
    (built : ofRows routine context rows name = .ok table) :
    table.IsNumbered ∧ table.vectors.length = rows.length := by
  obtain ⟨-, -, -, decoded⟩ := decodeRows_of_ofRows built
  have holds := holds_of_decodeRows decoded
  refine ⟨fun index vector found => ?_, ?_⟩
  · obtain ⟨inside, rfl⟩ := List.getElem?_eq_some_iff.mp found
    have inside' : index < rows.zipIdx.length := holds.length_eq ▸ inside
    have here := (holds.get inside' inside).index
    simpa using here
  · rw [← holds.length_eq, List.length_zipIdx]

/-- Rows that are decoded from a position on make a table of their own. -/
theorem exists_ofRows (stored : context.format.carrier?.isNone = false) {name : String} {count : ℕ}
    {rows : List Value} {vectors : List Vector}
    (decoded : decodeRows routine context.format name (0 + count) rows = .ok vectors)
    (other : Option String) :
    ∃ table, ofRows routine context rows other = .ok table ∧ table.routine = routine ∧
      table.context = context ∧ vectors = table.vectors.map (Vector.shift count) := by
  obtain ⟨others, again, rfl⟩ :=
    exists_decodeRows (other.getD (defaultName routine context.format)) decoded
  refine ⟨⟨routine, context, other.getD (defaultName routine context.format), others⟩, ?_, rfl,
    rfl, rfl⟩
  unfold ofRows
  dsimp only
  rw [stored, if_neg Bool.false_ne_true, again]
  rfl

/-- Each part of the rows of a table makes a table. -/
theorem exists_splits {first second : List Value} {name : Option String} {table : Table}
    (built : ofRows routine context (first ++ second) name = .ok table)
    (name' name'' : Option String) :
    ∃ left right, ofRows routine context first name' = .ok left ∧
      ofRows routine context second name'' = .ok right ∧ table.Splits left right := by
  obtain ⟨stored, rfl, rfl, decoded⟩ := decodeRows_of_ofRows built
  obtain ⟨vectors, vectors', here, there, joined⟩ := decodeRows_append decoded
  obtain ⟨left, made, routine, context, same⟩ := @exists_ofRows _ _ stored _ 0 _ _ here name'
  obtain ⟨right, made', routine', context', same'⟩ := exists_ofRows stored there name''
  refine ⟨left, right, made, made', ⟨routine, routine'⟩, ⟨context, context'⟩, ?_⟩
  -- The vectors of the first part keep their positions.
  have kept : vectors = left.vectors := same.trans (List.map_id _)
  rw [joined, same', kept, (isNumbered_of_ofRows made).2]

end Rows

/-! ## Running both parts -/

namespace Splits

variable {table left right : Table} {policy : Policy} {mode : Mode}
  {results results' : List (Except Fault Value)}

section

variable (splits : table.Splits left right) (count : results.length = left.vectors.length)

include splits count

theorem zip_append :
    table.vectors.zip (results ++ results') = left.vectors.zip results ++
      (right.vectors.zip results').map (Prod.map (Vector.shift left.vectors.length) id) := by
  rw [splits.vectors, List.zip_append count.symm, List.zip_map_left]

theorem trials_append :
    table.trials policy (results ++ results') = left.trials policy results ++
      (right.trials policy results').map (Trial.shift left.vectors.length) := by
  unfold trials
  rw [splits.zip_append count, List.flatMap_append, List.flatMap_map, List.map_flatMap,
    splits.routine.1, splits.routine.2]
  refine congrArg _ (congrArg₂ _ (funext fun pair => ?_) rfl)
  exact trialsFrom_shift _ _ _ _ _ _

theorem shaped_append_iff :
    table.Shaped table.vectors (results ++ results') ↔
      left.Shaped left.vectors results ∧ right.Shaped right.vectors results' := by
  unfold Shaped
  rw [splits.zip_append count, List.forall_mem_append, List.forall_mem_map, splits.routine.1,
    splits.routine.2]
  rfl

/-- The outputs of the whole table can be compared just if those of both parts can. -/
theorem exists_check_append_iff :
    (∀ trial ∈ table.trials policy (results ++ results'),
        ∃ found, trial.check table policy = .ok found) ↔
      (∀ trial ∈ left.trials policy results, ∃ found, trial.check left policy = .ok found) ∧
        ∀ trial ∈ right.trials policy results', ∃ found, trial.check right policy = .ok found := by
  rw [splits.trials_append count, List.forall_mem_append, List.forall_mem_map]
  simp only [Trial.exists_check_shift_iff, Trial.check_congr splits.routine.1 splits.context.1,
    Trial.check_congr splits.routine.2 splits.context.2]

/-- The account of the whole table is put together from those of its parts. -/
theorem account_append (count' : results'.length = right.vectors.length) :
    table.account policy mode (results ++ results') =
      (left.account policy mode results).append (right.account policy mode results') := by
  have tally : collect table policy (table.trials policy (results ++ results')) {} =
      (collect left policy (left.trials policy results) {}).append
        ((collect right policy (right.trials policy results') {}).shift left.vectors.length) := by
    rw [splits.trials_append count, collect_append, collect_shift,
      collect_congr splits.routine.1 splits.context.1,
      collect_congr splits.routine.2 splits.context.2]
  have length : table.vectors.length = left.vectors.length + right.vectors.length := by
    rw [splits.vectors, List.length_append, List.length_map]
  unfold account Verdict.append
  rw [tally, splits.routine.1, splits.context.1, List.length_append, length, count, count',
    min_self, min_self, min_self]
  rfl

/-- A run of the whole table is a run of both parts. -/
theorem run_iff (count' : results'.length = right.vectors.length) {verdict : Verdict} :
    table.run policy mode (results ++ results') = .ok verdict ↔
      ∃ first second, left.run policy mode results = .ok first ∧
        right.run policy mode results' = .ok second ∧ verdict = first.append second := by
  simp only [run_eq_ok_iff, splits.shaped_append_iff count, splits.exists_check_append_iff count,
    splits.account_append count count', splits.routine.1, splits.routine.2]
  constructor
  · rintro ⟨wide, ⟨shaped, shaped'⟩, ⟨each, each'⟩, rfl⟩
    exact ⟨_, _, ⟨wide, shaped, each, rfl⟩, ⟨wide, shaped', each', rfl⟩, rfl⟩
  · rintro ⟨_, _, ⟨wide, shaped, each, rfl⟩, ⟨-, shaped', each', rfl⟩, rfl⟩
    exact ⟨wide, ⟨shaped, shaped'⟩, ⟨each, each'⟩, rfl⟩

end

end Splits

end Table

/-! ## Vectors that fail in either part -/

/-- When the failures of the first part are of its own vectors, none is counted in both parts. -/
theorem Verdict.failed_append {first second : Verdict}
    (below : ∀ failure ∈ first.failures, failure.index < first.ran) :
    (first.append second).failed = first.failed + second.failed := by
  have moved : (second.failures.map (Failure.shift first.ran)).map Failure.index =
      (second.failures.map Failure.index).map (· + first.ran) := by
    rw [List.map_map, List.map_map]
    rfl
  have image : ((second.failures.map Failure.index).map (· + first.ran)).toFinset =
      (second.failures.map Failure.index).toFinset.image (· + first.ran) := by
    ext index
    simp
  rw [failed_eq, failed_eq, failed_eq, append, List.map_append, moved, List.toFinset_append, image,
    Finset.card_union_of_disjoint, Finset.card_image_of_injective _ (add_left_injective _)]
  rw [Finset.disjoint_left]
  intro index inFirst inSecond
  rw [List.mem_toFinset, List.mem_map] at inFirst
  obtain ⟨failure, member, rfl⟩ := inFirst
  obtain ⟨other, -, same⟩ := Finset.mem_image.mp inSecond
  have less := below failure member
  omega


namespace Table

/-- The verdict of a run of a table that is made from rows is its account. -/
theorem accounts_of_run {routine : Routine} {context : Context} {rows : List Value}
    {name : Option String} {table : Table} (built : ofRows routine context rows name = .ok table)
    {policy : Policy} {mode : Mode} {results : List (Except Fault Value)} {verdict : Verdict}
    (count : results.length = rows.length) (ran : table.run policy mode results = .ok verdict) :
    table.Accounts policy results verdict ∧ ∀ failure ∈ verdict.failures,
      failure.index < verdict.ran := by
  obtain ⟨numbered, length⟩ := isNumbered_of_ofRows built
  obtain ⟨-, -, each, rfl⟩ := run_eq_ok_iff.mp ran
  have accounts := accounts_of_account numbered each (count.trans length.symm) mode
  refine ⟨accounts, fun failure member => ?_⟩
  rw [accounts.ran]
  exact index_lt_of_mem_account numbered each member

/-- **A verdict is the exact account of its run.** If the rows are split into two tables, the whole
table gives a verdict just if both parts do with their results, and then it is made up of theirs:
the failures of the second part follow those of the first with their positions moved on, and the
numbers of vectors that are run and that fail are added. -/
theorem run_accounts {routine : Routine} {context : Context} {rows : List Value}
    {name : Option String} {table : Table}
    (built : ofRows routine context rows name = .ok table) :
    (∀ policy mode results verdict, results.length = rows.length →
      table.run policy mode results = .ok verdict → table.Accounts policy results verdict) ∧
    ∀ first second, rows = first ++ second → ∀ name' name'', ∃ left right,
      ofRows routine context first name' = .ok left ∧
      ofRows routine context second name'' = .ok right ∧
      ∀ policy mode results results', results.length = first.length →
        results'.length = second.length → ∀ verdict,
          table.run policy mode (results ++ results') = .ok verdict ↔
            ∃ part part', left.run policy mode results = .ok part ∧
              right.run policy mode results' = .ok part' ∧ verdict = part.append part' ∧
                verdict.failed = part.failed + part'.failed := by
  refine ⟨fun policy mode results verdict count ran => (accounts_of_run built count ran).1, ?_⟩
  rintro first second rfl name' name''
  obtain ⟨left, right, made, made', splits⟩ := exists_splits built name' name''
  refine ⟨left, right, made, made', ?_⟩
  intro policy mode results results' count count' verdict
  rw [splits.run_iff (count.trans (isNumbered_of_ofRows made).2.symm)
    (count'.trans (isNumbered_of_ofRows made').2.symm)]
  constructor
  · rintro ⟨part, part', ran, ran', rfl⟩
    exact ⟨part, part', ran, ran', rfl, Verdict.failed_append (accounts_of_run made count ran).2⟩
  · rintro ⟨part, part', ran, ran', same, -⟩
    exact ⟨part, part', ran, ran', same⟩

/-- A table of the cube roots of 1 and 8. The first result is accepted one step off. The second one
has the wrong sign: it fails in the part that has the second row only, and as the second vector of
the whole table, and its distance is not counted. -/
theorem run_accounts_half :
    ∃ table left right verdict part part',
      ofRows .cbrt ⟨.half, .nearestEven, []⟩ [.tuple [.bits 0x3c00, .bits 0x3c00],
        .tuple [.bits 0x4000, .bits 0x4800]] none = .ok table ∧
      ofRows .cbrt ⟨.half, .nearestEven, []⟩ [.tuple [.bits 0x3c00, .bits 0x3c00]] none =
        .ok left ∧
      ofRows .cbrt ⟨.half, .nearestEven, []⟩ [.tuple [.bits 0x4000, .bits 0x4800]] none =
        .ok right ∧
      table.run (.default .cbrt) .nearestEven
        [.ok (.scalar .half 0x3c01), .ok (.scalar .half 0xc000)] = .ok verdict ∧
      left.run (.default .cbrt) .nearestEven [.ok (.scalar .half 0x3c01)] = .ok part ∧
      right.run (.default .cbrt) .nearestEven [.ok (.scalar .half 0xc000)] = .ok part' ∧
      table.Accounts (.default .cbrt)
        [.ok (.scalar .half 0x3c01), .ok (.scalar .half 0xc000)] verdict ∧
      verdict = part.append part' ∧ verdict.failures.map Failure.index = [1] ∧
      part'.failures.map Failure.index = [0] ∧ verdict.maxUlps = 1 := by
  obtain ⟨account, parts⟩ := @run_accounts .cbrt ⟨.half, .nearestEven, []⟩
    [.tuple [.bits 0x3c00, .bits 0x3c00], .tuple [.bits 0x4000, .bits 0x4800]] none _ rfl
  obtain ⟨left, right, made, made', whole⟩ := parts [_] [_] rfl none none
  obtain ⟨part, part', ran, ran', same, -⟩ := (whole (.default .cbrt) .nearestEven
    [.ok (.scalar .half 0x3c01)] [.ok (.scalar .half 0xc000)] rfl rfl _).mp rfl
  obtain rfl := Except.ok.inj made
  obtain rfl := Except.ok.inj made'
  obtain rfl := Except.ok.inj ran
  obtain rfl := Except.ok.inj ran'
  exact ⟨_, _, _, _, _, _, rfl, rfl, rfl, rfl, rfl, rfl, account _ .nearestEven _ _ rfl rfl, same,
    rfl, rfl, rfl⟩

end Table

end LibmAudit
