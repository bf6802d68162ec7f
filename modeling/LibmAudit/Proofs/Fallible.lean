/-
**Steps that may fail.**

* `bind_eq_ok_iff`, `map_eq_ok_iff`, `mapError_eq_ok_iff`, `toOption_eq_some_iff`,
  `mapM_eq_ok_iff`: what each step gave when all went well.
* `exists_mapM`, `exists_of_mapM`, `exists_of_mem_results`: steps that all go well go well together,
  and each result is that of a step.
* `bind_eq_error_iff`, `map_eq_error_iff`, `mapError_eq_error_iff`, `mapM_eq_error_iff`: where a
  fault comes from. Of the steps for a list it is the first one that fails.
-/

import LibmAudit.Fault
import Mathlib

namespace LibmAudit

variable {α β : Type} {given : Except Fault α}

/-- Both steps went well. -/
theorem bind_eq_ok_iff {next : α → Except Fault β} {result : β} :
    (given >>= next) = .ok result ↔ ∃ value, given = .ok value ∧ next value = .ok result := by
  cases given with
  | error fault => exact iff_of_false nofun fun ⟨_, same, _⟩ => absurd same nofun
  | ok value =>
    constructor
    · intro both
      exact ⟨value, rfl, both⟩
    · rintro ⟨_, ⟨⟩, both⟩
      exact both

theorem map_eq_ok_iff {function : α → β} {result : β} :
    given.map function = .ok result ↔ ∃ value, given = .ok value ∧ function value = result := by
  cases given with
  | error fault => exact iff_of_false nofun fun ⟨_, same, _⟩ => absurd same nofun
  | ok value =>
    constructor
    · intro mapped
      exact ⟨value, rfl, Except.ok.inj mapped⟩
    · rintro ⟨_, ⟨⟩, rfl⟩
      rfl

theorem mapError_eq_ok_iff {change : Fault → Fault} {result : α} :
    given.mapError change = .ok result ↔ given = .ok result := by
  cases given with
  | error fault => exact iff_of_false nofun nofun
  | ok value => exact Iff.rfl

theorem toOption_eq_some_iff {value : α} : given.toOption = some value ↔ given = .ok value := by
  cases given with
  | error fault => exact iff_of_false nofun nofun
  | ok other => exact ⟨fun same => congrArg Except.ok (Option.some.inj same),
      fun same => congrArg some (Except.ok.inj same)⟩

/-- A step for each item of a list. -/
theorem mapM_eq_ok_iff {function : α → Except Fault β} {list : List α} {results : List β} :
    list.mapM function = .ok results ↔
      List.Forall₂ (fun item result => function item = .ok result) list results := by
  induction list generalizing results with
  | nil =>
    rw [List.mapM_nil, List.forall₂_nil_left_iff]
    exact ⟨fun same => (Except.ok.inj same).symm, fun same => congrArg Except.ok same.symm⟩
  | cons item rest ih =>
    rw [List.mapM_cons, bind_eq_ok_iff, List.forall₂_cons_left_iff]
    constructor
    · rintro ⟨first, here, last⟩
      obtain ⟨others, there, joined⟩ := bind_eq_ok_iff.mp last
      exact ⟨first, others, here, ih.mp there, (Except.ok.inj joined).symm⟩
    · rintro ⟨first, others, here, there, rfl⟩
      exact ⟨first, here, bind_eq_ok_iff.mpr ⟨others, ih.mpr there, rfl⟩⟩

/-- When all steps went well, each one did. -/
theorem exists_of_mapM {function : α → Except Fault β} {list : List α} {results : List β}
    (given : list.mapM function = .ok results) {item : α} (member : item ∈ list) :
    ∃ result, function item = .ok result := by
  have related := mapM_eq_ok_iff.mp given
  clear given
  induction related with
  | nil => exact absurd member List.not_mem_nil
  | cons here _ ih =>
    rcases List.mem_cons.mp member with rfl | member
    · exact ⟨_, here⟩
    · exact ih member

/-- Each result is that of an item. -/
theorem exists_of_mem_results {function : α → Except Fault β} {list : List α} {results : List β}
    (given : list.mapM function = .ok results) {result : β} (member : result ∈ results) :
    ∃ item ∈ list, function item = .ok result := by
  have related := mapM_eq_ok_iff.mp given
  clear given
  induction related with
  | nil => exact absurd member List.not_mem_nil
  | @cons item _ _ _ here _ ih =>
    rcases List.mem_cons.mp member with rfl | member
    · exact ⟨item, List.mem_cons_self, here⟩
    · obtain ⟨other, inside, there⟩ := ih member
      exact ⟨other, List.mem_cons_of_mem _ inside, there⟩

/-- What went well did not go wrong. -/
theorem not_error_of_ok (well : ∃ value, given = .ok value) : ¬ ∃ fault, given = .error fault := by
  rintro ⟨fault, wrong⟩
  obtain ⟨value, right⟩ := well
  exact nomatch wrong.symm.trans right

/-- The first step went wrong or the second one did. -/
theorem bind_eq_error_iff {next : α → Except Fault β} {fault : Fault} :
    (given >>= next) = .error fault ↔
      given = .error fault ∨ ∃ value, given = .ok value ∧ next value = .error fault := by
  cases given with
  | error other =>
    rw [or_iff_left fun ⟨_, same, _⟩ => absurd same nofun]
    exact ⟨fun same => congrArg Except.error (Except.error.inj same),
      fun same => congrArg Except.error (Except.error.inj same)⟩
  | ok value =>
    rw [or_iff_right nofun]
    constructor
    · intro failed
      exact ⟨value, rfl, failed⟩
    · rintro ⟨_, ⟨⟩, failed⟩
      exact failed

theorem map_eq_error_iff {function : α → β} {fault : Fault} :
    given.map function = .error fault ↔ given = .error fault := by
  cases given with
  | error other =>
    exact ⟨fun same => congrArg Except.error (Except.error.inj same),
      fun same => congrArg Except.error (Except.error.inj same)⟩
  | ok value => exact iff_of_false nofun nofun

theorem mapError_eq_error_iff {change : Fault → Fault} {fault : Fault} :
    given.mapError change = .error fault ↔ ∃ cause, given = .error cause ∧ change cause = fault := by
  cases given with
  | error cause =>
    constructor
    · intro mapped
      exact ⟨cause, rfl, Except.error.inj mapped⟩
    · rintro ⟨_, ⟨⟩, rfl⟩
      rfl
  | ok value => exact iff_of_false nofun fun ⟨_, same, _⟩ => absurd same nofun

/-- Of the steps for the items of a list the first one that fails stops the rest. -/
theorem mapM_eq_error_iff {function : α → Except Fault β} {list : List α} {fault : Fault} :
    list.mapM function = .error fault ↔
      ∃ (position : ℕ) (item : α), list[position]? = some item ∧ function item = .error fault ∧
        ∀ earlier < position, ∀ other, list[earlier]? = some other →
          ∃ result, function other = .ok result := by
  induction list with
  | nil =>
    rw [List.mapM_nil]
    exact iff_of_false nofun fun ⟨_, _, here, _⟩ => absurd here nofun
  | cons head rest ih =>
    rw [List.mapM_cons, bind_eq_error_iff]
    constructor
    · rintro (failed | ⟨first, here, failed⟩)
      · exact ⟨0, head, rfl, failed, fun earlier less => absurd less (Nat.not_lt_zero _)⟩
      · have inRest := (bind_eq_error_iff.mp failed).resolve_right fun ⟨_, _, never⟩ => nomatch never
        obtain ⟨position, item, found, failed, before⟩ := ih.mp inRest
        refine ⟨position + 1, item, found, failed, fun earlier less other inside => ?_⟩
        cases earlier with
        | zero => exact ⟨first, Option.some.inj inside ▸ here⟩
        | succ earlier => exact before earlier (Nat.lt_of_succ_lt_succ less) other inside
    · rintro ⟨position, item, found, failed, before⟩
      cases position with
      | zero => exact Or.inl (Option.some.inj found ▸ failed)
      | succ position =>
        obtain ⟨first, here⟩ := before 0 (Nat.succ_pos _) head rfl
        have inRest := ih.mpr ⟨position, item, found, failed, fun earlier less other inside =>
          before (earlier + 1) (Nat.succ_lt_succ less) other inside⟩
        exact Or.inr ⟨first, here, bind_eq_error_iff.mpr (Or.inl inRest)⟩

/-- Steps that all go well go well together. -/
theorem exists_mapM {function : α → Except Fault β} {list : List α}
    (each : ∀ item ∈ list, ∃ result, function item = .ok result) :
    ∃ results, list.mapM function = .ok results := by
  induction list with
  | nil => exact ⟨[], rfl⟩
  | cons item rest ih =>
    rw [List.forall_mem_cons] at each
    obtain ⟨first, here⟩ := each.1
    obtain ⟨others, there⟩ := ih each.2
    exact ⟨first :: others, mapM_eq_ok_iff.mpr (.cons here (mapM_eq_ok_iff.mp there))⟩

end LibmAudit
