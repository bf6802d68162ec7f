/-
**What is wrong with a literal.**

A literal that does not decode is at fault itself, or some number in it is too large; what is wrong
is never the form of the row that it stands in.

* `BlamesNoRow`: results and faults other than those of rows.
* `Format.decode_blamesNoRow`, `decodeInteger_blamesNoRow`: literals of float and of integer slots.
-/

import LibmAudit.Literal
import LibmAudit.Proofs.Fallible

namespace LibmAudit

/-- A result, or a fault that is not that of a row. -/
def BlamesNoRow {α : Type} (result : Except Fault α) : Prop :=
  ∀ fault, result = .error fault → fault.category ≠ .row

namespace BlamesNoRow

variable {α β : Type} {given : Except Fault α} {fault : Fault}

theorem ok (value : α) : BlamesNoRow (.ok value : Except Fault α) := nofun

theorem error (other : fault.category ≠ .row) : BlamesNoRow (.error fault : Except Fault α) := by
  rintro _ ⟨⟩
  exact other

theorem refuse (other : fault.category ≠ .row) :
    BlamesNoRow (LibmAudit.refuse fault : Except Fault α) := by
  unfold LibmAudit.refuse
  split
  · exact .error other
  · exact .error nofun

theorem bind {next : α → Except Fault β} (first : BlamesNoRow given)
    (second : ∀ value, BlamesNoRow (next value)) : BlamesNoRow (given >>= next) := by
  cases given with
  | error fault => exact .error (first fault rfl)
  | ok value => exact second value

theorem map (first : BlamesNoRow given) (function : α → β) : BlamesNoRow (given.map function) :=
  fun fault failed => first fault (map_eq_error_iff.mp failed)

end BlamesNoRow

namespace Format

variable (format : Format)

theorem round_blamesNoRow (mode : Mode) (negative : Bool) (significand : ℕ) (exponent : ℤ)
    (sticky : Bool) : BlamesNoRow (format.round mode negative significand exponent sticky) := by
  unfold round checkLength
  dsimp only
  split
  · split
    · exact .error nofun
    · exact .ok _
  split
  · refine .map ?_ _
    split
    · exact .error nofun
    · split
      · exact .error nofun
      · exact .ok _
  split
  · exact .refuse nofun
  · exact .ok _

theorem decodeHex_blamesNoRow (parts : HexParts) (literal : String) :
    BlamesNoRow (format.decodeHex parts literal) := by
  unfold decodeHex readExponent
  dsimp only
  split
  · exact .error nofun
  refine .bind ?_ fun exponent => .bind (format.round_blamesNoRow _ _ _ _ _) fun rounded => ?_
  · split
    · exact .error nofun
    · exact .ok _
  · split
    · exact .error nofun
    · exact .ok _

theorem decodeDecimal_blamesNoRow (text : String) : BlamesNoRow (format.decodeDecimal text) := by
  unfold decodeDecimal
  dsimp only
  split
  · split
    · exact .error nofun
    · split
      · exact .ok _
      · exact .error nofun
  · exact .error nofun

theorem decodeText_blamesNoRow (literal : String) : BlamesNoRow (format.decodeText literal) := by
  unfold decodeText
  dsimp only
  split
  · exact .ok _
  · split
    · exact format.decodeHex_blamesNoRow _ _
    · exact format.decodeDecimal_blamesNoRow _

theorem decode_blamesNoRow (literal : Value) : BlamesNoRow (format.decode literal) := by
  unfold decode decodeExact
  dsimp only
  split
  · split
    · exact .error nofun
    · exact .ok _
  · exact .error nofun
  · split
    · exact .refuse nofun
    · exact .ok _
  · split
    · exact .ok _
    · exact .error nofun
  · exact format.decodeText_blamesNoRow _
  · exact format.decodeText_blamesNoRow _
  · exact .refuse nofun

end Format

theorem decodeInteger_blamesNoRow (literal : Value) : BlamesNoRow (decodeInteger literal) := by
  unfold decodeInteger
  split
  · exact .error nofun
  · exact .ok _
  · exact .ok _
  · exact .refuse nofun

end LibmAudit
