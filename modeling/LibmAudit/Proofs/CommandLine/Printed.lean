/-
**What is printed.**

A text is described by its lines, and a line by what it says of a verdict or of a failure, without
the functions that print them.

* `Prints`: a text made of lines, each of them ended.
* `TellsOf`, `Shows`: the line for a failure, and the block of lines for a verdict.
* `prints_textOfLines`, `shows_of_report`: what is printed and reported is of that form.
-/

import LibmAudit.CommandLine.Session
import LibmAudit.Proofs.Check.Account
import LibmAudit.Proofs.Check.Run

namespace LibmAudit.CommandLine

open Suite

/-! ## Lines -/

/-- The text consists of these lines, each of them ended. -/
def Prints (text : String) (lines : List String) : Prop :=
  text.toList = lines.flatMap fun line => line.toList ++ ['\n']

theorem prints_textOfLines (lines : List String) : Prints (textOfLines lines) lines := by
  simp [Prints, textOfLines, String.toList_join, List.flatMap_map]

/-- The line tells which vector of the routine fails, with which operands, what is expected and
given, and why this is not accepted. -/
def TellsOf (verdict : Verdict) (failure : Failure) (line : String) : Prop :=
  ∃ operands expected actual : String,
    line = "  #" ++ toString failure.index ++ " " ++ verdict.routine.name ++ "(" ++ operands ++
      ")" ++ (if 1 < verdict.routine.shape.outputs.length then
        "[" ++ toString failure.output ++ "]" else "") ++
      ": expected " ++ expected ++ ", got " ++ actual ++ ": " ++ failure.kind.word ++ ", " ++
      failure.reason

/-- The lines for a verdict: how many vectors were run and how many of them fail, whether all of them
are accepted, and then the failures, all of them or only the first. -/
def Shows (every : Bool) (verdict : Verdict) (block : List String) : Prop :=
  ∃ lines,
    block = (verdict.routine.name ++ " " ++ verdict.context.format.name ++ ": " ++
      toString verdict.ran ++ " run, " ++
      toString (verdict.failures.map Failure.index).toFinset.card ++ " failed, max " ++
      toString verdict.maxUlps ++ " ulps [" ++
      (if verdict.failures = [] then "ok" else "FAILED") ++ "]") :: lines ∧
    List.Forall₂ (TellsOf verdict)
      (if every then verdict.failures else verdict.failures.take 1) lines

/-! ## Reports -/

theorem summary_eq (verdict : Verdict) : verdict.summary =
    verdict.routine.name ++ " " ++ verdict.context.format.name ++ ": " ++ toString verdict.ran ++
      " run, " ++ toString (verdict.failures.map Failure.index).toFinset.card ++ " failed, max " ++
      toString verdict.maxUlps ++ " ulps [" ++
      (if verdict.failures = [] then "ok" else "FAILED") ++ "]" := by
  unfold Verdict.summary
  rw [verdict.failed_eq, if_congr (Verdict.passed_iff) rfl rfl]

theorem tellsOf_of_describe {verdict : Verdict} {failure : Failure} {line : String}
    (described : failure.describe verdict.routine verdict.context.format = .ok line) :
    TellsOf verdict failure line := by
  obtain ⟨operands, -, described⟩ := bind_eq_ok_iff.mp described
  obtain ⟨expected, -, described⟩ := bind_eq_ok_iff.mp described
  obtain ⟨actual, -, described⟩ := bind_eq_ok_iff.mp described
  exact ⟨_, expected, actual, (Except.ok.inj described).symm⟩

/-- What is reported of a verdict is the block for it. -/
theorem shows_of_report {verdict : Verdict} {every : Bool} {block : List String}
    (reported : verdict.report every = .ok block) : Shows every verdict block := by
  obtain ⟨lines, written, same⟩ := bind_eq_ok_iff.mp reported
  refine ⟨lines, ?_, (mapM_eq_ok_iff.mp written).imp fun _ _ => tellsOf_of_describe⟩
  rw [← summary_eq]
  exact (Except.ok.inj same).symm

end LibmAudit.CommandLine
