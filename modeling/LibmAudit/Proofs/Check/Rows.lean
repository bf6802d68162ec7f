/-
**Tables decode all rows or name the first bad one.**

A row is bad if it is no sequence of the right length, or if some entry offends: an input that is
left open, or a literal that its slot does not decode.

* `Table.OffendsAt`, `RowDecodes`, `FailsByLiteral`: which rows are decoded, and which ones fail by a
  literal.
* `Table.DecodesTo`, `Vector.Decodes`, `Vector.Holds`: a vector holds the decoded entries of a row.
* `Table.decodeEntries_outcome`, `decodeRow_outcome`: one row.
* `Table.ofRows_outcome`: all rows.
-/

import LibmAudit.Proofs.Check.Answers
import LibmAudit.Proofs.Check.Table
import LibmAudit.Proofs.Literal.Faults

namespace LibmAudit

attribute [local instance (high)] instPowNat

/-! ## Which rows are decoded -/

namespace Table

/-- The entry at a position of a row is an input that is left open, or a literal that its slot does
not decode. The outputs come first. -/
def OffendsAt (format : Format) (shape : Shape) (entries : List Value) (position : ℕ) : Prop :=
  ∃ slot entry, (shape.outputs ++ shape.inputs)[position]? = some slot ∧
    entries[position]? = some entry ∧
      ((entry = .none ∧ shape.outputs.length ≤ position) ∨
        (entry ≠ .none ∧ ∀ value, decodeSlot format slot entry ≠ .ok value))

/-- A row is a sequence of the right length without an entry that offends. -/
def RowDecodes (routine : Routine) (format : Format) (row : Value) : Prop :=
  ∃ entries, row = .tuple entries ∧ entries.length = routine.shape.width ∧
    ∀ position, ¬ OffendsAt format routine.shape entries position

/-- A row is a sequence of the right length whose first entry that offends is a literal. -/
def FailsByLiteral (routine : Routine) (format : Format) (row : Value) : Prop :=
  ∃ entries position, row = .tuple entries ∧ entries.length = routine.shape.width ∧
    OffendsAt format routine.shape entries position ∧
      (∀ earlier < position, ¬ OffendsAt format routine.shape entries earlier) ∧
        entries[position]? ≠ some .none

/-- What an entry is decoded to: nothing if it is left open. -/
def DecodesTo (format : Format) (slot : Slot) (entry : Value) (value : Option SlotValue) : Prop :=
  (entry = .none ∧ value = none) ∨
    (entry ≠ .none ∧ ∃ decoded, decodeSlot format slot entry = .ok decoded ∧ value = some decoded)

end Table

/-- A vector holds the decoded entries of a row, split after the outputs. -/
structure Vector.Decodes (format : Format) (shape : Shape) (entries : List Value)
    (vector : Vector) : Prop where
  outputs : vector.expected.length = shape.outputs.length
  decoded : List.Forall₂ (fun slotted value => Table.DecodesTo format slotted.1 slotted.2 value)
    ((shape.outputs ++ shape.inputs).zip entries) (vector.expected ++ vector.inputs.map some)

/-- A vector is made of the row at a position. The function under test reads the inputs back from
its arguments. -/
structure Vector.Holds (routine : Routine) (format : Format) (index : ℕ) (row : Value)
    (vector : Vector) : Prop where
  index : vector.index = index
  entries : ∃ entries, row = .tuple entries ∧ vector.Decodes format routine.shape entries
  arguments : row.IsSound →
    (vector.arguments format).map (SlotValue.ofArgument format) = vector.inputs

/-! ## Entries -/

namespace Table

variable {format : Format} {shape : Shape} {slot : Slot} {entry : Value} {fault : Fault}

theorem decodeExpected_eq_ok_iff {value : Option SlotValue} :
    decodeExpected format slot entry = .ok value ↔ DecodesTo format slot entry value := by
  unfold DecodesTo decodeExpected
  split
  · rw [or_iff_left fun other => other.1 rfl, and_iff_right rfl, Except.ok.injEq, eq_comm]
  · next some =>
    rw [or_iff_right fun none => some none.1, and_iff_right some, map_eq_ok_iff]
    simp only [eq_comm]

theorem decodeInput_eq_ok_iff {value : SlotValue} :
    decodeInput format slot entry = .ok value ↔ DecodesTo format slot entry (some value) := by
  unfold DecodesTo decodeInput
  split
  · exact iff_of_false nofun fun either => either.elim (fun none => nomatch none.2)
      fun other => other.1 rfl
  · next some =>
    rw [or_iff_right fun none => some none.1, and_iff_right some]
    constructor
    · exact fun decoded => ⟨value, decoded, rfl⟩
    · rintro ⟨_, decoded, ⟨⟩⟩
      exact decoded

theorem decodeExpected_eq_error_iff :
    decodeExpected format slot entry = .error fault ↔
      entry ≠ .none ∧ decodeSlot format slot entry = .error fault := by
  unfold decodeExpected
  split
  · exact iff_of_false nofun fun other => other.1 rfl
  · next some => rw [and_iff_right some, map_eq_error_iff]

theorem decodeInput_eq_error_iff :
    decodeInput format slot entry = .error fault ↔
      (entry = .none ∧ fault = .missingInput) ∨
        (entry ≠ .none ∧ decodeSlot format slot entry = .error fault) := by
  unfold decodeInput
  split
  · rw [or_iff_left fun other => other.1 rfl, and_iff_right rfl, Except.error.injEq, eq_comm]
  · next some => rw [or_iff_right fun none => some none.1, and_iff_right some]

theorem decodeSlot_blamesNoRow (format : Format) (slot : Slot) (literal : Value) :
    BlamesNoRow (decodeSlot format slot literal) := by
  cases slot with
  | float => exact (format.decode_blamesNoRow literal).map _
  | int => exact (decodeInteger_blamesNoRow literal).map _

/-- The entries with their slots are those of the outputs, then those of the inputs. -/
theorem zip_slots (shape : Shape) {entries : List Value} (width : entries.length = shape.width) :
    (shape.outputs ++ shape.inputs).zip entries =
      shape.outputs.zip (entries.take shape.outputs.length) ++
        shape.inputs.zip (entries.drop shape.outputs.length) := by
  unfold Shape.width at width
  rw [← List.zip_append (by rw [List.length_take]; omega), List.take_append_drop]

theorem offendsAt_iff {entries : List Value} {position : ℕ} :
    OffendsAt format shape entries position ↔
      ∃ slotted, ((shape.outputs ++ shape.inputs).zip entries)[position]? = some slotted ∧
        ((slotted.2 = .none ∧ shape.outputs.length ≤ position) ∨
          (slotted.2 ≠ .none ∧ ∃ fault, decodeSlot format slotted.1 slotted.2 = .error fault)) := by
  have fails (slot : Slot) (entry : Value) :
      (∀ value, decodeSlot format slot entry ≠ .ok value) ↔
        ∃ fault, decodeSlot format slot entry = .error fault := by
    cases decodeSlot format slot entry with
    | error fault => exact iff_of_true nofun ⟨fault, rfl⟩
    | ok value => exact iff_of_false (fun never => never value rfl) nofun
  simp only [Prod.exists, List.getElem?_zip_eq_some, OffendsAt, fails, and_assoc]

/-- Among the outputs. -/
theorem offendsAt_output {entries : List Value} (width : entries.length = shape.width)
    {position : ℕ} (inside : position < shape.outputs.length) :
    OffendsAt format shape entries position ↔
      ∃ slotted, (shape.outputs.zip (entries.take shape.outputs.length))[position]? =
        some slotted ∧ ∃ fault, decodeExpected format slotted.1 slotted.2 = .error fault := by
  have count : position < (shape.outputs.zip (entries.take shape.outputs.length)).length := by
    rw [List.length_zip, List.length_take, width, Shape.width]
    omega
  rw [offendsAt_iff, zip_slots shape width, List.getElem?_append_left count]
  simp only [decodeExpected_eq_error_iff, exists_and_left, not_le.mpr inside, and_false, false_or]

/-- Among the inputs. -/
theorem offendsAt_input {entries : List Value} (width : entries.length = shape.width)
    (offset : ℕ) :
    OffendsAt format shape entries (shape.outputs.length + offset) ↔
      ∃ slotted, (shape.inputs.zip (entries.drop shape.outputs.length))[offset]? =
        some slotted ∧ ∃ fault, decodeInput format slotted.1 slotted.2 = .error fault := by
  have count : (shape.outputs.zip (entries.take shape.outputs.length)).length =
      shape.outputs.length := by
    rw [List.length_zip, List.length_take, width, Shape.width]
    omega
  rw [offendsAt_iff, zip_slots shape width, List.getElem?_append_right (by omega), count,
    Nat.add_sub_cancel_left]
  simp [decodeInput_eq_error_iff, exists_or]

/-! ## Rows -/

/-- The first entry of a row that offends, and what it is refused with. -/
structure StopsAt (format : Format) (shape : Shape) (entries : List Value) (position : ℕ)
    (fault : Fault) : Prop where
  offends : OffendsAt format shape entries position
  first : ∀ earlier < position, ¬ OffendsAt format shape entries earlier
  reason : (entries[position]? = some .none ∧ fault = .missingInput) ∨
    (entries[position]? ≠ some .none ∧ fault.category ≠ .row)

variable {entries : List Value} (width : entries.length = shape.width)

include width

/-- An output that is not decoded stops the row. -/
theorem stopsAt_output (failed : decodeAll (decodeExpected format) shape.outputs
    (entries.take shape.outputs.length) = .error fault) :
    ∃ position, StopsAt format shape entries position fault := by
  rw [decodeAll_eq_mapM, mapM_eq_error_iff] at failed
  obtain ⟨position, slotted, found, failed, before⟩ := failed
  obtain ⟨isSlot, isEntry⟩ := List.getElem?_zip_eq_some.mp found
  have inside := (List.getElem?_eq_some_iff.mp isSlot).1
  rw [List.getElem?_take_of_lt inside] at isEntry
  obtain ⟨some, refused⟩ := decodeExpected_eq_error_iff.mp failed
  refine ⟨position, (offendsAt_output width inside).mpr ⟨slotted, found, fault, failed⟩,
    fun earlier less => ?_, Or.inr ⟨?_, decodeSlot_blamesNoRow _ _ _ _ refused⟩⟩
  · rw [offendsAt_output width (less.trans inside)]
    exact fun ⟨other, here, wrong⟩ => not_error_of_ok (before earlier less other here) wrong
  · rw [isEntry]
    exact fun none => some (Option.some.inj none)

/-- When all outputs are decoded none of them offends. -/
theorem not_offendsAt_output {expected : List (Option SlotValue)}
    (given : decodeAll (decodeExpected format) shape.outputs
      (entries.take shape.outputs.length) = .ok expected) {position : ℕ}
    (inside : position < shape.outputs.length) : ¬ OffendsAt format shape entries position := by
  rw [decodeAll_eq_mapM] at given
  rw [offendsAt_output width inside]
  exact fun ⟨slotted, here, wrong⟩ =>
    not_error_of_ok (exists_of_mapM given (List.mem_of_getElem? here)) wrong

/-- An input that is not decoded stops the row, unless an output has stopped it. -/
theorem stopsAt_input
    (outputs : ∀ position < shape.outputs.length, ¬ OffendsAt format shape entries position)
    (failed : decodeAll (decodeInput format) shape.inputs
      (entries.drop shape.outputs.length) = .error fault) :
    ∃ position, StopsAt format shape entries position fault := by
  rw [decodeAll_eq_mapM, mapM_eq_error_iff] at failed
  obtain ⟨offset, slotted, found, failed, before⟩ := failed
  have isEntry := (List.getElem?_zip_eq_some.mp found).2
  rw [List.getElem?_drop] at isEntry
  refine ⟨shape.outputs.length + offset,
    (offendsAt_input width offset).mpr ⟨slotted, found, fault, failed⟩, fun earlier less => ?_, ?_⟩
  · by_cases inside : earlier < shape.outputs.length
    · exact outputs earlier inside
    · obtain ⟨earlier, rfl⟩ := Nat.exists_eq_add_of_le (not_lt.mp inside)
      rw [offendsAt_input width]
      exact fun ⟨other, here, wrong⟩ =>
        not_error_of_ok (before earlier (by omega) other here) wrong
  · rw [isEntry]
    rcases decodeInput_eq_error_iff.mp failed with ⟨none, same⟩ | ⟨some, refused⟩
    · exact Or.inl ⟨congrArg Option.some none, same⟩
    · exact Or.inr ⟨fun none => some (Option.some.inj none),
        decodeSlot_blamesNoRow _ _ _ _ refused⟩

/-- The entries of a row are decoded, or the first one that offends stops the rest. -/
theorem decodeEntries_outcome (index : ℕ) :
    match decodeEntries format shape index entries with
    | .ok vector => vector.index = index ∧ vector.Decodes format shape entries ∧
        ∀ position, ¬ OffendsAt format shape entries position
    | .error fault => ∃ position, StopsAt format shape entries position fault := by
  unfold decodeEntries
  dsimp only
  cases outputs : decodeAll (decodeExpected format) shape.outputs
      (entries.take shape.outputs.length) with
  | error fault => exact stopsAt_output width outputs
  | ok expected =>
    have noOutput (position : ℕ) := @not_offendsAt_output _ _ _ width _ outputs position
    cases others : decodeAll (decodeInput format) shape.inputs
        (entries.drop shape.outputs.length) with
    | error fault => exact stopsAt_input width noOutput others
    | ok inputs =>
      rw [decodeAll_eq_mapM] at outputs others
      have related := mapM_eq_ok_iff.mp outputs
      have related' := mapM_eq_ok_iff.mp others
      refine ⟨rfl, ⟨?_, ?_⟩, fun position => ?_⟩
      · rw [← related.length_eq, List.length_zip, List.length_take, width, Shape.width]
        omega
      · rw [zip_slots shape width]
        refine List.rel_append (related.imp fun _ _ => decodeExpected_eq_ok_iff.mp) ?_
        rw [List.forall₂_map_right_iff]
        exact related'.imp fun _ _ => decodeInput_eq_ok_iff.mp
      · by_cases inside : position < shape.outputs.length
        · exact noOutput position inside
        · obtain ⟨offset, rfl⟩ := Nat.exists_eq_add_of_le (not_lt.mp inside)
          rw [offendsAt_input width]
          rintro ⟨slotted, here, wrong⟩
          exact not_error_of_ok (exists_of_mapM others (List.mem_of_getElem? here)) wrong

omit width

/-- Only one entry is the first one that offends. -/
theorem StopsAt.failsByLiteral_iff {routine : Routine} {position : ℕ}
    (width : entries.length = routine.shape.width)
    (stops : StopsAt format routine.shape entries position fault) :
    FailsByLiteral routine format (.tuple entries) ↔ entries[position]? ≠ some .none := by
  constructor
  · rintro ⟨_, other, ⟨⟩, -, offends, first, some⟩
    rcases lt_trichotomy other position with less | rfl | more
    · exact absurd offends (stops.first other less)
    · exact some
    · exact absurd stops.offends (first position more)
  · exact fun some => ⟨entries, position, rfl, width, stops.offends, stops.first, some⟩

/-- A row is decoded, or refused by itself or for the first entry that offends. -/
theorem decodeRow_outcome (routine : Routine) (format : Format) (index : ℕ) (row : Value) :
    match decodeRow routine format index row with
    | .ok vector => RowDecodes routine format row ∧ vector.index = index ∧
        ∃ entries, row = .tuple entries ∧ vector.Decodes format routine.shape entries
    | .error fault => ¬ RowDecodes routine format row ∧
        (fault.category = .literal ∨ fault.category = .row →
          (fault.category = .literal ↔ FailsByLiteral routine format row)) := by
  cases row with
  | tuple entries =>
    unfold decodeRow
    dsimp only
    split_ifs with width
    · refine ⟨?_, fun _ => iff_of_false nofun ?_⟩
      · rintro ⟨_, ⟨⟩, same, -⟩
        exact width same
      · rintro ⟨_, _, ⟨⟩, same, -⟩
        exact width same
    · have outcome := @decodeEntries_outcome format _ _ (not_not.mp width) index
      cases given : decodeEntries format routine.shape index entries with
      | ok vector =>
        rw [given] at outcome
        obtain ⟨same, decodes, none⟩ := outcome
        exact ⟨⟨entries, rfl, not_not.mp width, none⟩, same, entries, rfl, decodes⟩
      | error fault =>
        rw [given] at outcome
        obtain ⟨position, stops⟩ := outcome
        refine ⟨?_, fun blamed => ?_⟩
        · rintro ⟨_, ⟨⟩, -, none⟩
          exact none position stops.offends
        · rw [stops.failsByLiteral_iff (not_not.mp width)]
          rcases stops.reason with ⟨none, rfl⟩ | ⟨some, other⟩
          · exact iff_of_false nofun fun some => some none
          · exact iff_of_true (blamed.resolve_right other) some
  | none | bool _ | int _ | text _ | bits _ | number _ | scalar _ _ | fixed _ _ =>
    unfold decodeRow refuse
    dsimp only
    refine ⟨nofun, fun _ => iff_of_false ?_ nofun⟩
    split <;> exact nofun

/-! ## Arguments -/

theorem fills_of_decoded {slots : List Slot} {literals : List Value} {values : List SlotValue}
    (related : List.Forall₂ (fun slotted value => DecodesTo format slotted.1 slotted.2 (some value))
      (slots.zip literals) values) (count : slots.length ≤ literals.length)
    (sound : ∀ literal ∈ literals, literal.IsSound) : Fills format slots values := by
  induction slots generalizing literals values with
  | nil =>
    rw [List.zip_nil_left, List.forall₂_nil_left_iff] at related
    rw [related]
    exact ⟨rfl, nofun⟩
  | cons slot slots ih =>
    cases literals with
    | nil => exact absurd count (Nat.not_succ_le_zero _)
    | cons literal literals =>
      rw [List.forall_mem_cons] at sound
      rw [List.zip_cons_cons, List.forall₂_cons_left_iff] at related
      obtain ⟨value, rest, ⟨-, none⟩ | ⟨-, _, decoded, ⟨⟩⟩, others, rfl⟩ := related
      · exact nomatch none
      · obtain ⟨kind, fits⟩ := decodeSlot_fits sound.1 decoded
        obtain ⟨kinds, fit⟩ := ih others (Nat.le_of_succ_le_succ count) sound.2
        exact ⟨congrArg₂ List.cons kind kinds, List.forall_mem_cons.mpr ⟨fits, fit⟩⟩

/-- The inputs of a sound row fit their slots. -/
theorem fills_inputs {vector : Vector} (width : entries.length = shape.width)
    (decodes : vector.Decodes format shape entries)
    (sound : ∀ entry ∈ entries, entry.IsSound) : Fills format shape.inputs vector.inputs := by
  have related := List.forall₂_drop_append _ _ _ decodes.decoded
  have count : (shape.outputs.zip (entries.take shape.outputs.length)).length =
      vector.expected.length := by
    rw [decodes.outputs, List.length_zip, List.length_take, width, Shape.width]
    omega
  rw [zip_slots shape width, ← count, List.drop_left, List.forall₂_map_right_iff] at related
  refine fills_of_decoded related ?_ fun entry member => sound entry (List.mem_of_mem_drop member)
  rw [List.length_drop, width, Shape.width]
  omega

/-! ## Tables -/

/-- The vector of a row that is decoded. -/
theorem holds_of_decodeRow {routine : Routine} {index : ℕ} {row : Value} {vector : Vector}
    (given : decodeRow routine format index row = .ok vector) :
    vector.Holds routine format index row := by
  have outcome := decodeRow_outcome routine format index row
  rw [given] at outcome
  obtain ⟨⟨_, same, width, -⟩, place, entries, rfl, decodes⟩ := outcome
  obtain rfl := Value.tuple.inj same
  refine ⟨place, ⟨entries, rfl, decodes⟩, fun sound => ?_⟩
  rw [Value.IsSound, Value.allSound_iff] at sound
  exact (fills_inputs width decodes sound).map_ofArgument

theorem exists_decodePlaced_iff {routine : Routine} {name : String} {placed : Value × ℕ} :
    (∃ vector, decodePlaced routine format name placed = .ok vector) ↔
      RowDecodes routine format placed.1 := by
  have outcome := decodeRow_outcome routine format placed.2 placed.1
  simp only [decodePlaced, mapError_eq_ok_iff]
  cases given : decodeRow routine format placed.2 placed.1 with
  | ok vector =>
    rw [given] at outcome
    exact iff_of_true ⟨vector, rfl⟩ outcome.1
  | error fault =>
    rw [given] at outcome
    refine iff_of_false ?_ outcome.1
    rintro ⟨_, ⟨⟩⟩

/-- There is one vector for each row that is decoded. -/
theorem holds_of_decodeRows {routine : Routine} {name : String} {index : ℕ} {rows : List Value}
    {vectors : List Vector} (decoded : decodeRows routine format name index rows = .ok vectors) :
    List.Forall₂ (fun placed vector => vector.Holds routine format placed.2 placed.1)
      (rows.zipIdx index) vectors := by
  rw [decodeRows_eq_mapM, mapM_eq_ok_iff] at decoded
  exact decoded.imp fun placed vector given => holds_of_decodeRow (mapError_eq_ok_iff.mp given)

/-- A table is made by a step for each row. -/
theorem ofRows_eq {routine : Routine} {context : Context} {carrier : Carrier}
    (stored : context.format.carrier? = some carrier) (rows : List Value) (name : Option String) :
    ofRows routine context rows name =
      (rows.zipIdx.mapM (decodePlaced routine context.format
        (name.getD (defaultName routine context.format)))).map
          (⟨routine, context, name.getD (defaultName routine context.format), ·⟩) := by
  rw [ofRows, stored, ← decodeRows_eq_mapM]
  rfl

/-- **A table decodes all rows or names the first bad one.** If every row is decoded there is one
vector for each, in their order. If a row is at fault, the message starts with the name of the table
and the position of the first row that is not decoded, and a literal is at fault just if the row has
the right length and the first entry that offends is no input that is left open. -/
theorem ofRows_outcome {routine : Routine} {context : Context} {carrier : Carrier}
    (stored : context.format.carrier? = some carrier) (rows : List Value) (name : Option String) :
    ((∃ table, ofRows routine context rows name = .ok table) ↔
      ∀ row ∈ rows, RowDecodes routine context.format row) ∧
    (∀ table, ofRows routine context rows name = .ok table →
      table.routine = routine ∧ table.context = context ∧
        table.name = name.getD (defaultName routine context.format) ∧
        List.Forall₂ (fun placed vector => vector.Holds routine context.format placed.2 placed.1)
          rows.zipIdx table.vectors) ∧
    ∀ fault, ofRows routine context rows name = .error fault →
      fault.category = .literal ∨ fault.category = .row →
      ∃ (index : ℕ) (row : Value), rows[index]? = some row ∧
        ¬ RowDecodes routine context.format row ∧
        (∀ earlier < index, ∀ other, rows[earlier]? = some other →
          RowDecodes routine context.format other) ∧
        (∃ text, fault.message = name.getD (defaultName routine context.format) ++ " row " ++
          toString index ++ ": " ++ text) ∧
        (fault.category = .literal ↔ FailsByLiteral routine context.format row) := by
  rw [ofRows_eq stored]
  generalize name.getD (defaultName routine context.format) = title
  have inRows (placed : Value × ℕ) : placed ∈ rows.zipIdx ↔ rows[placed.2]? = some placed.1 :=
    List.mem_zipIdx_iff_getElem?
  refine ⟨⟨?_, fun each => ?_⟩, ?_, ?_⟩
  · rintro ⟨table, built⟩ row member
    obtain ⟨vectors, decoded, -⟩ := map_eq_ok_iff.mp built
    obtain ⟨index, found⟩ := List.mem_iff_getElem?.mp member
    exact exists_decodePlaced_iff.mp (exists_of_mapM decoded ((inRows (row, index)).mpr found))
  · have all (placed : Value × ℕ) (member : placed ∈ rows.zipIdx) :
        ∃ vector, decodePlaced routine context.format title placed = .ok vector :=
      exists_decodePlaced_iff.mpr (each _ (List.mem_of_getElem? ((inRows placed).mp member)))
    obtain ⟨vectors, decoded⟩ := exists_mapM all
    exact ⟨_, map_eq_ok_iff.mpr ⟨vectors, decoded, rfl⟩⟩
  · intro table built
    obtain ⟨vectors, decoded, rfl⟩ := map_eq_ok_iff.mp built
    rw [← decodeRows_eq_mapM] at decoded
    exact ⟨rfl, rfl, rfl, holds_of_decodeRows decoded⟩
  · intro fault failed blamed
    obtain ⟨index, placed, found, refused, before⟩ :=
      mapM_eq_error_iff.mp (map_eq_error_iff.mp failed)
    obtain ⟨cause, given, rfl⟩ := mapError_eq_error_iff.mp refused
    rw [List.getElem?_zipIdx, Option.map_eq_some_iff] at found
    obtain ⟨row, here, rfl⟩ := found
    dsimp only at given blamed ⊢
    rw [Nat.zero_add] at given blamed ⊢
    have outcome := decodeRow_outcome routine context.format index row
    rw [given] at outcome
    refine ⟨index, row, here, outcome.1, fun earlier less other inside => ?_, ?_⟩
    · refine exists_decodePlaced_iff.mp (before earlier less (other, earlier) ?_)
      rw [List.getElem?_zipIdx, inside, Nat.zero_add]
      rfl
    · have rowFault : cause.category = .literal ∨ cause.category = .row := by
        unfold located at blamed
        split at blamed <;> exact blamed
      have completed : located title index cause = .inRow title index cause :=
        if_pos (by simpa [Category.isRowFault] using rowFault)
      rw [completed]
      exact ⟨⟨cause.message, rfl⟩, outcome.2 rowFault⟩

/-- A row with an open output is decoded; after it, the input of the second row is no number. -/
theorem ofRows_outcome_half :
    Format.half.carrier? = some .half ∧
      RowDecodes .sqrt .half (.tuple [.none, .bits 0x4400]) ∧
      ∃ fault, ofRows .sqrt ⟨.half, .nearestEven, []⟩
          [.tuple [.none, .bits 0x4400], .tuple [.bits 0x4000, .text "four"]] none = .error fault ∧
        fault.category = .literal ∧
        FailsByLiteral .sqrt .half (.tuple [.bits 0x4000, .text "four"]) ∧
        ∃ text, fault.message =
          defaultName .sqrt .half ++ " row " ++ toString 1 ++ ": " ++ text := by
  have stored : Format.half.carrier? = some .half := by decide
  have first : RowDecodes .sqrt .half (.tuple [.none, .bits 0x4400]) :=
    (@ofRows_outcome .sqrt ⟨.half, .nearestEven, []⟩ _ stored [_] none).1.mp ⟨_, rfl⟩ _
      List.mem_cons_self
  refine ⟨stored, first, _, rfl, rfl, ?_⟩
  obtain ⟨index, row, found, wrong, -, message, literal⟩ :=
    (@ofRows_outcome .sqrt ⟨.half, .nearestEven, []⟩ _ stored
      [.tuple [.none, .bits 0x4400], .tuple [.bits 0x4000, .text "four"]] none).2.2 _ rfl
      (Or.inl rfl)
  match index, found with
  | 0, found =>
    obtain rfl := Option.some.inj found
    exact absurd first wrong
  | 1, found =>
    obtain rfl := Option.some.inj found
    exact ⟨literal.mp rfl, message⟩

end Table

end LibmAudit
