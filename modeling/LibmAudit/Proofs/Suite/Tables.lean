/-
**The built-in tables.**

In the formats of machine types that are wide enough, the literals of all built-in rows are decoded,
to operands and outputs of the kinds of the routine. Their integers are those of 32 bits and a sign.

* `Vector.IsOrdinary`: what the built-in vectors have in common. It is decided for each of them.
* `Suite.builtInTable_cases`: the table of a routine for a format that has a name.
-/

import LibmAudit.Proofs.Context
import LibmAudit.Proofs.Reference.Faults
import LibmAudit.Suite.Tables

namespace LibmAudit

attribute [local instance (high)] instPowNat

/-! ## Ordinary vectors -/

/-- A pattern fits the format, and an integer is not too large. -/
def SlotValue.IsOrdinary (format : Format) : SlotValue → Prop
  | .float pattern => pattern < 2 ^ format.totalBits
  | .int value => value.natAbs < 2 ^ (32 : ℕ)

instance SlotValue.decidableIsOrdinary (format : Format) :
    (value : SlotValue) → Decidable (value.IsOrdinary format)
  | .float pattern => inferInstanceAs (Decidable (pattern < 2 ^ format.totalBits))
  | .int value => inferInstanceAs (Decidable (value.natAbs < 2 ^ (32 : ℕ)))

/-- Operands and outputs are of the kinds of a routine, and ordinary. A fused multiplication of the
machine does not overflow on the operands. -/
structure Vector.IsOrdinary (routine : Routine) (format : Format) (vector : Vector) : Prop where
  kinds : vector.inputs.map SlotValue.slot = routine.shape.inputs
  inputs : ∀ value ∈ vector.inputs, value.IsOrdinary format
  expected : ∀ entry ∈ vector.expected.zip routine.shape.outputs, ∀ value ∈ entry.1,
    value.slot = entry.2 ∧ value.IsOrdinary format
  fused : routine = .fma → EndsTold (Native.call routine format vector.inputs)

instance Vector.decidableIsOrdinary (routine : Routine) (format : Format) (vector : Vector) :
    Decidable (vector.IsOrdinary routine format) :=
  decidable_of_iff (vector.inputs.map SlotValue.slot = routine.shape.inputs ∧
      (∀ value ∈ vector.inputs, value.IsOrdinary format) ∧
      (∀ entry ∈ vector.expected.zip routine.shape.outputs, ∀ value ∈ entry.1,
        value.slot = entry.2 ∧ value.IsOrdinary format) ∧
      (routine = .fma → EndsTold (Native.call routine format vector.inputs)))
    ⟨fun all => ⟨all.1, all.2.1, all.2.2.1, all.2.2.2⟩,
      fun vector => ⟨vector.1, vector.2, vector.3, vector.4⟩⟩

namespace Suite

/-! ## Tables by format -/

/-- The built-in table of a routine is made, and its vectors are ordinary. -/
def isOrdinary (format : Format) (routine : Routine) : Bool :=
  match builtInTable ⟨format, .nearestEven, []⟩ routine with
  | .ok table => table.vectors.all fun vector => vector.IsOrdinary routine format
  | .error _ => false

theorem isOrdinary_single : Routine.all.all (isOrdinary Format.single) = true := by
  decide +kernel

theorem isOrdinary_double : Routine.all.all (isOrdinary Format.double) = true := by
  decide +kernel

theorem isOrdinary_extended : Routine.all.all (isOrdinary Format.extended) = true := by
  decide +kernel

theorem mem_all (routine : Routine) : routine ∈ Routine.all := by
  cases routine <;> decide

/-- A table of a routine in a format that a machine type stores, with ordinary vectors. -/
structure IsBuiltIn (context : Context) (routine : Routine) (table : Table) : Prop where
  routine_eq : table.routine = routine
  context_eq : table.context = context
  stored : ∃ carrier : Carrier, context.format = carrier.format
  ordinary : ∀ vector ∈ table.vectors, vector.IsOrdinary routine context.format

/-- A table is of the routine and the format that it is made for. -/
theorem of_builtInTable {context : Context} {routine : Routine} {table : Table}
    (built : builtInTable context routine = .ok table) :
    table.routine = routine ∧ table.context = context := by
  obtain ⟨rows, -, made⟩ := bind_eq_ok_iff.mp built
  unfold Table.ofRows at made
  dsimp only at made
  split at made
  · exact absurd made nofun
  · obtain ⟨vectors, -, rfl⟩ := map_eq_ok_iff.mp made
    exact ⟨rfl, rfl⟩

/-- Where the literals of all routines are decoded, each routine has its table. -/
theorem exists_builtInTable {carrier : Carrier}
    (all : Routine.all.all (isOrdinary carrier.format) = true) (routine : Routine) :
    ∃ table, builtInTable ⟨carrier.format, .nearestEven, []⟩ routine = .ok table ∧
      IsBuiltIn ⟨carrier.format, .nearestEven, []⟩ routine table := by
  have one := List.all_eq_true.mp all routine (mem_all routine)
  unfold isOrdinary at one
  split at one
  · next table built =>
    obtain ⟨routine_eq, context_eq⟩ := of_builtInTable built
    refine ⟨table, built, routine_eq, context_eq, ⟨carrier, rfl⟩, fun vector member => ?_⟩
    exact of_decide_eq_true (List.all_eq_true.mp one vector member)
  · exact absurd one Bool.false_ne_true

/-- A context that a name of a format stands for. -/
def IsNamed (context : Context) : Prop :=
  ∃ row ∈ NamedFormat.table, context = ⟨row.2.format, .nearestEven, []⟩

theorem isNamed_of_ofName {precision : Datum} {context : Context}
    (given : Context.ofName precision .nearestEven = .ok context) : IsNamed context := by
  obtain ⟨named, parsed, same⟩ := bind_eq_ok_iff.mp given
  obtain ⟨row, here, rfl⟩ := Option.map_eq_some_iff.mp (NamedFormat.ofName?_of_parse parsed)
  exact ⟨row, List.mem_of_find?_eq_some here, (Except.ok.inj same).symm⟩

/-- In a format that has a name, each routine has its table, unless the format is too narrow for the
rows or no machine type stores its values. -/
theorem builtInTable_cases {context : Context} (named : IsNamed context) (routine : Routine) :
    (∃ fault, builtInTable context routine = .error fault ∧ fault.category = .format) ∨
      ∃ table, builtInTable context routine = .ok table ∧ IsBuiltIn context routine table := by
  obtain ⟨row, member, rfl⟩ := named
  simp only [NamedFormat.table, List.mem_cons, List.not_mem_nil, or_false] at member
  rcases member with rfl | rfl | rfl | rfl | rfl | rfl
  · exact Or.inr (@exists_builtInTable .extended isOrdinary_extended routine)
  · exact Or.inl ⟨_, rfl, rfl⟩
  · exact Or.inr (@exists_builtInTable .single isOrdinary_single routine)
  · exact Or.inr (@exists_builtInTable .double isOrdinary_double routine)
  · exact Or.inr (@exists_builtInTable .extended isOrdinary_extended routine)
  · exact Or.inl ⟨_, rfl, rfl⟩

end Suite

end LibmAudit
