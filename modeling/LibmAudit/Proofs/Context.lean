/-
**Explicit widths of a context.**

A context is made from properties and from what is given explicitly. Widths that are given replace
those of the property `precision`, whichever name it has. Some names say more than widths: they bind
the values to the machine type of the extended format, and widths do not undo that.

* `NamedFormat.carrier?_of_ofName`: which names bind the machine type.
* `Context.explicit`: only the widths are given.
* `Context.BindsExtended`: whether the property `precision` binds the machine type.
* `Context.make_explicit`: the context with explicit widths is the one without properties, but for
  its mode and its properties; a bound machine type refuses widths of another format.
-/

import LibmAudit.Format.Context
import LibmAudit.Proofs.Fallible

namespace LibmAudit

/-! ## Names -/

/-- The names of the extended format that bind its machine type. -/
def extendedNames : List String := ["extended", "longdouble", "long double", "long_double"]

namespace NamedFormat

/-- A name binds the machine type of the extended format or none. -/
theorem carrier?_of_ofName {name : String} {named : NamedFormat}
    (found : ofName? name = some named) :
    named.carrier? = if name ∈ extendedNames then some .extended else none := by
  obtain ⟨row, search, rfl⟩ := Option.map_eq_some_iff.mp found
  have first : table = (extendedNames, ⟨Format.extended, some .extended⟩) :: table.tail := rfl
  have unbound : ∀ row ∈ table.tail, row.2.carrier? = none := by simp [table]
  rw [first, List.find?_cons] at search
  split at search
  · next bound =>
    rw [if_pos (List.contains_iff_mem.mp bound), ← Option.some.inj search]
  · next free =>
    rw [if_neg fun bound => Bool.eq_false_iff.mp free (List.contains_iff_mem.mpr bound),
      unbound row (List.mem_of_find?_eq_some search)]

/-- The format that a datum names is the one with its text as a name. -/
theorem ofName?_of_parse {precision : Datum} {named : NamedFormat}
    (parsed : parse precision = .ok named) : ofName? (nameOf precision.plain) = some named := by
  obtain ⟨name, read, found⟩ := bind_eq_ok_iff.mp parsed
  have spelled : nameOf precision.plain = name := by
    unfold Datum.toName at read
    split at read
    · exact Except.ok.inj read
    · exact absurd read nofun
  rw [spelled]
  split at found
  · next search => rw [search, Except.ok.inj found]
  · exact absurd found nofun

end NamedFormat

namespace Context

/-- Only the widths are given. -/
def explicit (exponentBits totalBits : ℤ) : ContextChoice :=
  { exponentBits := some exponentBits, totalBits := some totalBits }

/-- The property `precision` binds the values to the machine type of the extended format. -/
def BindsExtended (properties : Properties) : Prop :=
  ∃ precision, property? "precision" properties = some precision ∧
    nameOf precision.plain ∈ extendedNames

variable {properties : Properties} {exponentBits totalBits : ℤ} {mode : Option Mode}
  {named : Option NamedFormat}

/-- The machine type that properties bind, if any, is that of the extended format. -/
theorem carrier_of_formatOf (chosen : formatOf? properties = .ok named) :
    (BindsExtended properties ∧ named.bind (·.carrier?) = some .extended) ∨
      (¬ BindsExtended properties ∧ named.bind (·.carrier?) = none) := by
  unfold formatOf? at chosen
  split at chosen
  · next precision given =>
    obtain ⟨named, parsed, rfl⟩ := map_eq_ok_iff.mp chosen
    have carrier := NamedFormat.carrier?_of_ofName (NamedFormat.ofName?_of_parse parsed)
    by_cases bound : nameOf precision.plain ∈ extendedNames
    · exact Or.inl ⟨⟨precision, given, bound⟩, carrier.trans (if_pos bound)⟩
    · refine Or.inr ⟨?_, carrier.trans (if_neg bound)⟩
      rintro ⟨other, same, binds⟩
      obtain rfl := Option.some.inj (given.symm.trans same)
      exact bound binds
  · next absent =>
    obtain rfl := Except.ok.inj chosen
    refine Or.inr ⟨?_, rfl⟩
    rintro ⟨other, same, -⟩
    exact nomatch absent.symm.trans same

/-! ## Widths -/

theorem widths_of_ofWidths {format : Format}
    (found : Format.ofWidths? exponentBits totalBits = some format) :
    (format.exponentBits : ℤ) = exponentBits ∧ (format.totalBits : ℤ) = totalBits := by
  obtain ⟨widths, same⟩ := Option.dite_none_right_eq_some.mp found
  rw [← Option.some.inj same]
  exact ⟨Int.toNat_of_nonneg (by omega), Int.toNat_of_nonneg (by omega)⟩

/-- A format that is made has the widths that were asked for. -/
theorem widths_of_formatOfWidths {format : Format}
    (made : formatOfWidths exponentBits totalBits none = .ok format) :
    (format.exponentBits : ℤ) = exponentBits ∧ (format.totalBits : ℤ) = totalBits := by
  unfold formatOfWidths at made
  cases found : Format.ofWidths? exponentBits totalBits with
  | none =>
    rw [found] at made
    exact absurd made nofun
  | some other =>
    rw [found] at made
    obtain ⟨-, -, same⟩ := bind_eq_ok_iff.mp made
    rw [← Except.ok.inj same]
    exact widths_of_ofWidths found

/-- A machine type is only compared with a format that exists without it. -/
theorem formatOfWidths_some (exponentBits totalBits : ℤ) (carrier : Carrier) :
    formatOfWidths exponentBits totalBits (some carrier) =
      formatOfWidths exponentBits totalBits none >>= fun format =>
        if carrier.format = format then .ok format
        else refuse (.typeMismatch carrier exponentBits totalBits) := by
  unfold formatOfWidths
  split
  · rfl
  · next format _ => cases checkLength (format.exponentBits - 1) <;> rfl

/-! ## Contexts -/

theorem make_explicit_eq (rounding : modeOf? properties = .ok mode)
    (precision : formatOf? properties = .ok named) :
    make properties (explicit exponentBits totalBits) =
      (formatOfWidths exponentBits totalBits (named.bind (·.carrier?))).map fun format =>
        ⟨format, mode.getD .nearestEven, setProperties [] properties⟩ := by
  unfold make
  rw [rounding, precision]
  cases named with
  | none => cases mode <;> rfl
  | some named => cases mode <;> rfl

theorem make_plain_eq (exponentBits totalBits : ℤ) :
    make [] (explicit exponentBits totalBits) =
      (formatOfWidths exponentBits totalBits none).map fun format => ⟨format, .nearestEven, []⟩ :=
  @make_explicit_eq [] exponentBits totalBits none none rfl rfl

/-- **Explicit widths override the property `precision`.** Without properties, a context has the
widths that are given. Let both properties be read well. If the widths are refused without
properties, they are refused with them, for the same fault. Otherwise the context has the same
format and the mode of the property `round`, but where a name binds the machine type of the extended
format, other widths than 15 and 79 are refused. -/
theorem make_explicit (exponentBits totalBits : ℤ) (rounding : modeOf? properties = .ok mode)
    (precision : formatOf? properties = .ok named) :
    match make [] (explicit exponentBits totalBits) with
    | .error fault => make properties (explicit exponentBits totalBits) = .error fault
    | .ok plain =>
      plain = ⟨plain.format, .nearestEven, []⟩ ∧
      (plain.format.exponentBits : ℤ) = exponentBits ∧ (plain.format.totalBits : ℤ) = totalBits ∧
      ((BindsExtended properties → exponentBits = 15 ∧ totalBits = 79) →
        make properties (explicit exponentBits totalBits) =
          .ok ⟨plain.format, mode.getD .nearestEven, setProperties [] properties⟩) ∧
      (BindsExtended properties → ¬ (exponentBits = 15 ∧ totalBits = 79) →
        make properties (explicit exponentBits totalBits) =
          refuse (.typeMismatch .extended exponentBits totalBits)) := by
  rw [make_explicit_eq rounding precision, make_plain_eq]
  have bound := carrier_of_formatOf precision
  cases made : formatOfWidths exponentBits totalBits none with
  | error fault =>
    dsimp only [Except.map]
    rcases bound with ⟨-, same⟩ | ⟨-, same⟩
    · rw [same, formatOfWidths_some, made]
      rfl
    · rw [same, made]
  | ok format =>
    have widths := widths_of_formatOfWidths made
    have extended : Format.extended = format ↔ exponentBits = 15 ∧ totalBits = 79 := by
      constructor
      · rintro rfl
        exact ⟨widths.1.symm, widths.2.symm⟩
      · rintro ⟨first, second⟩
        cases format
        simp only [Format.extended, Format.mk.injEq]
        dsimp only at widths
        omega
    refine ⟨rfl, widths.1, widths.2, fun allowed => ?_, fun binds other => ?_⟩
    · rcases bound with ⟨binds, same⟩ | ⟨-, same⟩
      · rw [same, formatOfWidths_some, made]
        show Except.map _ (if Format.extended = format then _ else _) = _
        rw [if_pos (extended.mpr (allowed binds))]
        rfl
      · rw [same, made]
        rfl
    · have same := (bound.resolve_right fun free => free.1 binds).2
      rw [same, formatOfWidths_some, made]
      show Except.map _ (if Format.extended = format then _ else _) = _
      rw [if_neg fun same => other (extended.mp same)]
      rfl

/-- A name of the extended format that binds no machine type gives way to the widths of the half
format, and the mode is that of the property. -/
theorem make_explicit_half :
    make [("precision", .text " Float80 "), ("round", .text "toZero")] (explicit 5 16) =
      .ok ⟨Format.half, .towardZero,
        [("precision", .text " Float80 "), ("round", .text "toZero")]⟩ := by
  have precision : formatOf? [("precision", .text " Float80 "), ("round", .text "toZero")] =
      .ok (some ⟨Format.extended, none⟩) := rfl
  have plain : make [] (explicit 5 16) = .ok ⟨Format.half, .nearestEven, []⟩ := rfl
  have given := @make_explicit _ (some .towardZero) _ 5 16 rfl precision
  rw [plain] at given
  refine given.2.2.2.1 ?_
  rintro ⟨precision, same, bound⟩
  obtain rfl := Option.some.inj same
  exact absurd bound (by decide)

/-- The widths of the double format are refused when the property names the extended one. -/
theorem make_explicit_refused :
    make [] (explicit 11 64) = .ok ⟨Format.double, .nearestEven, []⟩ ∧
    modeOf? [("precision", .text "extended")] = .ok none ∧
    formatOf? [("precision", .text "extended")] =
      .ok (some ⟨Format.extended, some .extended⟩) ∧
    make [("precision", .text "extended")] (explicit 11 64) =
      .error (.typeMismatch .extended 11 64) := by
  have writable : [11, 64].all isWritable = true := by decide +kernel
  refine ⟨rfl, rfl, rfl, ?_⟩
  exact congrArg Except.error (if_pos writable)

end Context

end LibmAudit
