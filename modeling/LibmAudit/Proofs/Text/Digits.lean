/-
**Digits that are written and read back.**

* `Text.readDigits_append`, `readDigits_eq_ofDigits`: the digits after others, and their number.
* `Text.readDigits_toDigits`: reading gives the number that was written.
* `readHex_toDigits`, `Text.readDecimal_toDigits`: the two bases in use.
* `Text.mem_toDigits`, `isHexDigit_digitChar`: what is written are digits.
-/

import LibmAudit.Literal
import LibmAudit.Proofs.Text.Plain

namespace LibmAudit

attribute [local instance (high)] instPowNat

namespace Text

/-! ## Reading -/

variable (base : ℕ)

theorem readDigits_append (first second : List ℕ) :
    readDigits base (first ++ second) =
      readDigits base first * base ^ second.length + readDigits base second := by
  induction second using List.reverseRecOn with
  | nil => simp [readDigits]
  | append_singleton rest digit ih =>
    simp only [readDigits, ← List.append_assoc, List.foldl_append, List.foldl_cons, List.foldl_nil,
      List.length_append, List.length_cons, List.length_nil] at ih ⊢
    rw [ih, zero_add, pow_succ]
    ring

/-- Digits are read from the most significant one on. -/
theorem readDigits_eq_ofDigits (digits : List ℕ) :
    readDigits base digits = Nat.ofDigits base digits.reverse := by
  induction digits using List.reverseRecOn with
  | nil => rfl
  | append_singleton rest digit ih =>
    rw [readDigits_append, ih, List.reverse_append, List.reverse_singleton,
      List.singleton_append, Nat.ofDigits_cons]
    simp [readDigits]
    ring

theorem readDigits_replicate_zero (count : ℕ) :
    readDigits base (List.replicate count 0) = 0 := by
  induction count with
  | zero => rfl
  | succ count ih => rwa [List.replicate_succ, readDigits, List.foldl_cons, zero_mul, add_zero]

/-! ## Writing -/

variable {base}

theorem mem_toDigits (large : 1 < base) {number : ℕ} {char : Char}
    (member : char ∈ Nat.toDigits base number) : ∃ digit < base, char = Nat.digitChar digit := by
  induction number using Nat.strongRecOn with
  | ind number ih =>
    rw [Nat.toDigits_eq_if large] at member
    split at member
    · next small => exact ⟨number, small, List.mem_singleton.mp member⟩
    · next big =>
      rcases List.mem_append.mp member with earlier | last
      · exact ih _ (Nat.div_lt_self (by omega) large) earlier
      · exact ⟨_, Nat.mod_lt _ (by omega), List.mem_singleton.mp last⟩

/-- Reading gives the number that was written. -/
theorem readDigits_toDigits (large : 1 < base) {value : Char → ℕ}
    (same : ∀ digit < base, value (Nat.digitChar digit) = digit) (number : ℕ) :
    readDigits base ((Nat.toDigits base number).map value) = number := by
  induction number using Nat.strongRecOn with
  | ind number ih =>
    rw [Nat.toDigits_eq_if large]
    split
    · next small => simp [readDigits, same number small]
    · next big =>
      rw [List.map_append, readDigits_append, ih _ (Nat.div_lt_self (by omega) large)]
      have last := same _ (Nat.mod_lt number (by omega))
      simp only [List.map_cons, List.map_nil, List.length_singleton, pow_one, last, readDigits,
        List.foldl_cons, List.foldl_nil, zero_mul, zero_add]
      exact Nat.div_add_mod' number base

theorem readDecimal_toDigits (number : ℕ) : readDecimal (Nat.toDigits 10 number) = number :=
  readDigits_toDigits (by decide) (by decide) number

end Text

/-! ## Hexadecimal digits -/

theorem hexDigitValue_digitChar : ∀ digit < 16, hexDigitValue (Nat.digitChar digit) = digit := by
  decide

theorem readHex_toDigits (number : ℕ) : readHex (Nat.toDigits 16 number) = number :=
  Text.readDigits_toDigits (by decide) hexDigitValue_digitChar number

theorem readHex_append (first second : List Char) :
    readHex (first ++ second) = readHex first * 16 ^ second.length + readHex second := by
  rw [readHex, List.map_append, Text.readDigits_append, List.length_map]
  rfl

theorem readHex_replicate_zero (count : ℕ) : readHex (List.replicate count '0') = 0 := by
  rw [readHex, List.map_replicate]
  exact Text.readDigits_replicate_zero 16 count

/-- What is written are digits, and they are plain characters. -/
theorem isHexDigit_digitChar : ∀ digit < 16,
    isHexDigit (Nat.digitChar digit) = true ∧ Text.isPlain (Nat.digitChar digit) = true := by
  decide

end LibmAudit
