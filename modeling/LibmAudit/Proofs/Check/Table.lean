/-
**What a table holds.**

* `Value.allSound_iff`: several values are sound if each one is.
* `Table.decodeAll_eq_mapM`, `decodeRows_eq_mapM`: items and rows are decoded one after the other.
* `Table.exists_of_mem_decodeAll`, `exists_of_mem_decodeRows`: where the items of a row and the rows
  of a table come from.
* `Table.decodeSlot_fits`: what a sound literal is decoded to fits its slot.
* `Table.IsSound`: the format has a machine type, and expected patterns fit it.
* `Table.isSound_of_ofRows`: a table that is made from rows is sound.
-/

import LibmAudit.Check.Table
import LibmAudit.Proofs.Fallible
import LibmAudit.Proofs.Literal.Outcome
import LibmAudit.Proofs.Reference.Outputs

namespace LibmAudit

attribute [local instance (high)] instPowNat

theorem Value.allSound_iff {items : List Value} :
    Value.AllSound items ↔ ∀ item ∈ items, item.IsSound := by
  induction items with
  | nil => exact iff_of_true trivial fun _ member => absurd member List.not_mem_nil
  | cons item rest ih => rw [AllSound, ih, List.forall_mem_cons]

namespace Table

/-! ## Rows -/

/-- Entries are decoded one after the other. -/
theorem decodeAll_eq_mapM {α : Type} (decode : Slot → Value → Except Fault α) (slots : List Slot)
    (literals : List Value) :
    decodeAll decode slots literals =
      (slots.zip literals).mapM fun slotted => decode slotted.1 slotted.2 := by
  induction slots generalizing literals with
  | nil => cases literals <;> rfl
  | cons slot slots ih =>
    cases literals with
    | nil => rfl
    | cons literal literals =>
      rw [decodeAll, List.zip_cons_cons, List.mapM_cons]
      simp only [ih]

/-- Decodes a row at a position, for a table with a name. -/
def decodePlaced (routine : Routine) (format : Format) (name : String) (placed : Value × ℕ) :
    Except Fault Vector :=
  (decodeRow routine format placed.2 placed.1).mapError (located name placed.2)

/-- Rows are decoded one after the other, each with its position. -/
theorem decodeRows_eq_mapM (routine : Routine) (format : Format) (name : String) (index : ℕ)
    (rows : List Value) :
    decodeRows routine format name index rows =
      (rows.zipIdx index).mapM (decodePlaced routine format name) := by
  induction rows generalizing index with
  | nil => rfl
  | cons row rest ih =>
    rw [decodeRows, List.zipIdx_cons, List.mapM_cons, decodePlaced]
    simp only [ih]

/-- Each decoded item comes from a literal. -/
theorem exists_of_mem_decodeAll {α : Type} {decode : Slot → Value → Except Fault α}
    {slots : List Slot} {literals : List Value} {values : List α}
    (decoded : decodeAll decode slots literals = .ok values) {value : α} (member : value ∈ values) :
    ∃ slot ∈ slots, ∃ literal ∈ literals, decode slot literal = .ok value := by
  rw [decodeAll_eq_mapM] at decoded
  obtain ⟨⟨slot, literal⟩, pair, same⟩ := exists_of_mem_results decoded member
  obtain ⟨inside, inside'⟩ := List.of_mem_zip pair
  exact ⟨slot, inside, literal, inside', same⟩

/-- Each vector comes from a row. -/
theorem exists_of_mem_decodeRows {routine : Routine} {format : Format} {name : String} {index : ℕ}
    {rows : List Value} {vectors : List Vector}
    (decoded : decodeRows routine format name index rows = .ok vectors) {vector : Vector}
    (member : vector ∈ vectors) :
    ∃ row ∈ rows, ∃ index, decodeRow routine format index row = .ok vector := by
  rw [decodeRows_eq_mapM] at decoded
  obtain ⟨⟨row, place⟩, placed, same⟩ := exists_of_mem_results decoded member
  exact ⟨row, List.fst_mem_of_mem_zipIdx placed, place, mapError_eq_ok_iff.mp same⟩

/-- Expected items of a row come from its entries. -/
theorem exists_of_mem_expected {routine : Routine} {format : Format} {index : ℕ} {row : Value}
    {vector : Vector} (decoded : decodeRow routine format index row = .ok vector)
    {expected : Option SlotValue} (member : expected ∈ vector.expected) :
    ∃ entries, row = .tuple entries ∧ ∃ slot, ∃ literal ∈ entries,
      decodeExpected format slot literal = .ok expected := by
  unfold decodeRow at decoded
  dsimp only at decoded
  split at decoded
  · next entries =>
    split at decoded
    · cases decoded
    · unfold decodeEntries at decoded
      obtain ⟨outputs, first, last⟩ := bind_eq_ok_iff.mp decoded
      obtain ⟨inputs, -, joined⟩ := bind_eq_ok_iff.mp last
      rw [← Except.ok.inj joined] at member
      obtain ⟨slot, -, literal, inside, same⟩ := exists_of_mem_decodeAll first member
      exact ⟨entries, rfl, slot, literal, List.mem_of_mem_take inside, same⟩
  · cases decoded

/-! ## Sound tables -/

/-- The format of a table has a machine type, and the patterns that are expected fit the format. -/
structure IsSound (table : Table) : Prop where
  stored : ∃ carrier, table.context.format.carrier? = some carrier
  fits : ∀ vector ∈ table.vectors, ∀ pattern, some (.float pattern) ∈ vector.expected →
    pattern < 2 ^ table.context.format.totalBits

/-- What a sound literal is decoded to fits its slot. -/
theorem decodeSlot_fits {format : Format} {slot : Slot} {literal : Value} (sound : literal.IsSound)
    {value : SlotValue} (decoded : decodeSlot format slot literal = .ok value) :
    value.slot = slot ∧ value.Fits format := by
  unfold decodeSlot at decoded
  split at decoded
  · obtain ⟨pattern, given, rfl⟩ := map_eq_ok_iff.mp decoded
    have settles := format.decode_settles sound
    rw [given] at settles
    cases settles with
    | ok fits _ => exact ⟨rfl, fits⟩
  · obtain ⟨integer, -, rfl⟩ := map_eq_ok_iff.mp decoded
    exact ⟨rfl, trivial⟩

/-- An expected pattern fits, if the literal does. -/
theorem decodeExpected_lt {format : Format} {slot : Slot} {literal : Value}
    (sound : literal.IsSound) {pattern : ℕ}
    (decoded : decodeExpected format slot literal = .ok (some (.float pattern))) :
    pattern < 2 ^ format.totalBits := by
  unfold decodeExpected at decoded
  split at decoded
  · exact absurd decoded nofun
  · obtain ⟨value, slotValue, same⟩ := map_eq_ok_iff.mp decoded
    obtain rfl := Option.some.inj same
    exact (decodeSlot_fits sound slotValue).2

/-- A table that is made from rows is sound. -/
theorem isSound_of_ofRows {routine : Routine} {context : Context} {rows : List Value}
    {name : Option String} {table : Table} (sound : ∀ row ∈ rows, row.IsSound)
    (built : ofRows routine context rows name = .ok table) : table.IsSound := by
  unfold ofRows at built
  dsimp only at built
  split at built
  · exact absurd built nofun
  · next some =>
    obtain ⟨vectors, decoded, rfl⟩ := map_eq_ok_iff.mp built
    refine ⟨Option.ne_none_iff_exists'.mp (by simpa using some), ?_⟩
    intro vector member pattern expected
    obtain ⟨row, inside, index, same⟩ := exists_of_mem_decodeRows decoded member
    obtain ⟨entries, rfl, slot, literal, entry, found⟩ := exists_of_mem_expected same expected
    have all := sound _ inside
    rw [Value.IsSound, Value.allSound_iff] at all
    exact decodeExpected_lt (all literal entry) found

end Table

end LibmAudit
