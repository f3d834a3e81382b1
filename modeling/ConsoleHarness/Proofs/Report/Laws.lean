import Mathlib.Data.List.Forall2
import ConsoleHarness.Proofs.Report.Verdict
import ConsoleHarness.Proofs.Text.Utf16
import ConsoleHarness.Report.Lines

/-! # The laws of a verdict

What a verdict says of an expectation depends on the transcript and on that expectation alone, so
its counts, its exit code and its report cannot disagree.  The order of the expectations decides the
order of the lines and nothing else, and more text around a transcript only helps
(`verdict_keeps_its_laws`).
-/

namespace ConsoleHarness

/-- One text stands in another, as a stretch of its 16-bit units. -/
def Text.Occurs (part whole : String) : Prop := utf16 part.toList <:+: utf16 whole.toList

theorem Text.occurs_iff_isInfix {part whole : String} :
    Occurs part whole ↔ part.toList <:+: whole.toList :=
  utf16_isInfix_iff

instance (part whole : String) : Decidable (Text.Occurs part whole) :=
  decidable_of_iff (Text.occursIn part.toList whole.toList = true)
    (Text.occursIn_iff_isInfix.trans Text.occurs_iff_isInfix.symm)

/-- What occurs in a text occurs in every longer one. -/
theorem Text.Occurs.within {part whole : String} (occurs : Occurs part whole)
    (before after : String) : Occurs part (before ++ whole ++ after) := by
  rw [occurs_iff_isInfix] at occurs ⊢
  rw [String.toList_append, String.toList_append]
  exact occurs.trans ⟨before.toList, after.toList, rfl⟩

namespace Painter

/-- What a terminal is sent for a painted text. -/
theorem toList_wrap {start stop : Nat} {text : String} (filled : text ≠ "") :
    (wrap start stop text).toList =
      "\x1b[".toList ++ Nat.toDigits 10 start ++ 'm' :: text.toList ++
        "\x1b[".toList ++ Nat.toDigits 10 stop ++ ['m'] := by
  have shown : ¬ text.isEmpty = true := by simpa using filled
  unfold wrap
  rw [if_neg shown]
  simp [toString]

theorem wrap_ne_empty {start stop : Nat} {text : String} (filled : text ≠ "") :
    wrap start stop text ≠ "" := by
  intro same
  have none := congrArg String.toList same
  rw [toList_wrap filled] at none
  simp at none

theorem toDigits_colours :
    Nat.toDigits 10 32 = ['3', '2'] ∧ Nat.toDigits 10 31 = ['3', '1'] ∧ Nat.toDigits 10 1 = ['1'] := by
  decide

/-- A line that passed begins otherwise than one that failed. -/
def TellsApart (painter : Painter) : Prop :=
  ∀ rest : String, ¬ (painter.green "[PASS]").toList <+: (painter.red "[FAIL]" ++ rest).toList

theorem tellsApart_plain : TellsApart plain := by
  intro rest
  simp [plain]

theorem tellsApart_terminal : TellsApart terminal := by
  intro rest
  rw [String.toList_append]
  show ¬ (wrap 32 39 "[PASS]").toList <+: (wrap 31 39 "[FAIL]").toList ++ rest.toList
  rw [toList_wrap (by decide), toList_wrap (by decide)]
  simp [toDigits_colours]

end Painter

namespace Verdict

variable {transcript : String} {expectations : List Expectation} {painter : Painter}

/-- An entry tells what came of an expectation. -/
structure Tells (transcript : String) (e : Expectation) (j : Judged) : Prop where
  label : j.label = e.label
  expected : j.expected = e.expected
  passed : j.passed = true ↔ Text.Occurs e.expected transcript

/-- A line tells what came of an expectation. -/
inductive Reports (painter : Painter) (transcript : String) (e : Expectation) : String → Prop
  | pass (met : Text.Occurs e.expected transcript) :
      Reports painter transcript e (painter.green "[PASS]" ++ s!" {e.label}")
  | fail (unmet : ¬ Text.Occurs e.expected transcript) :
      Reports painter transcript e
        (painter.red "[FAIL]" ++ s!" {e.label} - expected '{e.expected}'")

/-- A line sums a verdict up, in the colour of its exit code. -/
inductive Sums (painter : Painter) (v : Verdict) : String → Prop
  | success (good : v.exitCode = 0) :
      Sums painter v (painter.boldGreen s!"Passed {v.passed}/{v.total} tests")
  | failure (bad : v.exitCode = 1) :
      Sums painter v (painter.boldRed s!"Passed {v.passed}/{v.total} tests")

/-! ## Entries and counts -/

theorem tells_judge (transcript : String) (e : Expectation) :
    Tells transcript e (judge transcript e) where
  label := rfl
  expected := rfl
  passed := (passed_judge transcript e).trans Text.occurs_iff_isInfix.symm

theorem forall₂_outcomes (transcript : String) (expectations : List Expectation) :
    List.Forall₂ (Tells transcript) expectations (ofTranscript transcript expectations).outcomes := by
  show List.Forall₂ (Tells transcript) expectations (expectations.map (judge transcript))
  rw [List.forall₂_map_right_iff, List.forall₂_same]
  intro e _
  exact tells_judge transcript e

theorem total_ofTranscript :
    (ofTranscript transcript expectations).total = expectations.length :=
  List.length_map _

theorem passed_ofTranscript : (ofTranscript transcript expectations).passed =
    expectations.countP fun e => Text.Occurs e.expected transcript := by
  show (expectations.map (judge transcript)).countP (·.passed) = _
  rw [List.countP_map]
  apply List.countP_congr
  intro e _
  rw [Function.comp_apply, (tells_judge transcript e).passed, decide_eq_true_iff]

theorem exitCode_eq_zero_iff_forall_occurs :
    (ofTranscript transcript expectations).exitCode = 0 ↔
      ∀ e ∈ expectations, Text.Occurs e.expected transcript := by
  simp only [Text.occurs_iff_isInfix]
  exact exitCode_ofTranscript

/-- Neither the order of the expectations nor how often one is made matters to the exit code. -/
theorem exitCode_congr {others : List Expectation}
    (same : ∀ e, e ∈ others ↔ e ∈ expectations) :
    (ofTranscript transcript others).exitCode = (ofTranscript transcript expectations).exitCode := by
  have alike : (ofTranscript transcript others).exitCode = 0 ↔
      (ofTranscript transcript expectations).exitCode = 0 := by
    simp only [exitCode_eq_zero_iff_forall_occurs, same]
  have code := exitCode_cases (ofTranscript transcript others)
  have code' := exitCode_cases (ofTranscript transcript expectations)
  omega

theorem forall₂_passed_within (before after : String) :
    List.Forall₂ (fun old new : Judged => old.passed = true → new.passed = true)
      (ofTranscript transcript expectations).outcomes
      (ofTranscript (before ++ transcript ++ after) expectations).outcomes := by
  show List.Forall₂ _ (expectations.map (judge transcript))
    (expectations.map (judge (before ++ transcript ++ after)))
  rw [List.forall₂_map_left_iff, List.forall₂_map_right_iff, List.forall₂_same]
  intro e _ passed
  exact (tells_judge _ e).passed.mpr (((tells_judge _ e).passed.mp passed).within before after)

/-! ## The report -/

theorem reports_line (painter : Painter) (transcript : String) (e : Expectation) :
    Reports painter transcript e (line painter (judge transcript e)) := by
  have told := tells_judge transcript e
  unfold line
  by_cases met : Text.Occurs e.expected transcript
  · rw [if_pos (told.passed.mpr met)]
    exact .pass met
  · rw [if_neg (mt told.passed.mp met)]
    exact .fail met

/-- The line of an expectation that was met is known by its beginning. -/
theorem Reports.starts_iff {e : Expectation} {line : String} (apart : painter.TellsApart)
    (reports : Reports painter transcript e line) :
    (painter.green "[PASS]").toList <+: line.toList ↔ Text.Occurs e.expected transcript := by
  cases reports with
  | pass met =>
    refine iff_of_true ?_ met
    rw [String.toList_append]
    exact List.prefix_append _ _
  | fail unmet => exact iff_of_false (apart _) unmet

theorem summary_ne_empty (v : Verdict) : v.summary ≠ "" := by
  intro same
  have none := congrArg String.toList same
  simp [summary] at none

theorem sums_lines (v : Verdict) (painter : Painter) :
    Sums painter v (if v.ok then painter.boldGreen v.summary else painter.boldRed v.summary) := by
  split
  next good => exact .success (exitCode_eq_zero_iff.mpr good)
  next bad => exact .failure ((exitCode_cases v).resolve_left (mt exitCode_eq_zero_iff.mp bad))

/-- On a terminal the colour of the count tells the exit code. -/
theorem Sums.starts_iff {v : Verdict} {line : String} (sums : Sums .terminal v line) :
    "\x1b[1m\x1b[32m".toList <+: line.toList ↔ v.exitCode = 0 := by
  have filled := v.summary_ne_empty
  cases sums with
  | success good =>
    refine iff_of_true ?_ good
    show _ <+: (Painter.wrap 1 22 (Painter.wrap 32 39 v.summary)).toList
    rw [Painter.toList_wrap (Painter.wrap_ne_empty filled), Painter.toList_wrap filled]
    simp [Painter.toDigits_colours]
  | failure bad =>
    refine iff_of_false ?_ (by omega)
    show ¬ _ <+: (Painter.wrap 1 22 (Painter.wrap 31 39 v.summary)).toList
    rw [Painter.toList_wrap (Painter.wrap_ne_empty filled), Painter.toList_wrap filled]
    simp [Painter.toDigits_colours]

/-! ## All of it -/

/-- A verdict tells of each expectation in its place, counts the ones that were met, and is good when
all of them were. -/
structure Counts (transcript : String) (expectations : List Expectation) (v : Verdict) : Prop where
  entries : List.Forall₂ (Tells transcript) expectations v.outcomes
  total : v.total = expectations.length
  passed : v.passed = expectations.countP fun e => Text.Occurs e.expected transcript
  bounded : v.passed ≤ v.total
  ok_iff : v.ok = true ↔ v.passed = v.total
  all_iff : v.ok = true ↔ ∀ j ∈ v.outcomes, j.passed = true
  code_iff : v.exitCode = 0 ↔ v.ok = true
  code : v.exitCode = 0 ∨ v.exitCode = 1

theorem counts_ofTranscript (transcript : String) (expectations : List Expectation) :
    Counts transcript expectations (ofTranscript transcript expectations) where
  entries := forall₂_outcomes transcript expectations
  total := total_ofTranscript
  passed := passed_ofTranscript
  bounded := passed_le_total
  ok_iff := ok_iff_passed_eq_total
  all_iff := ok_iff_forall_passed
  code_iff := exitCode_eq_zero_iff
  code := exitCode_cases _

/-- The lines of a report: one for each expectation in its place, an empty one, and the count. -/
theorem reports_lines (transcript : String) (expectations : List Expectation) (painter : Painter) :
    ∃ heads last, (ofTranscript transcript expectations).lines painter = heads ++ ["", last] ∧
      List.Forall₂ (Reports painter transcript) expectations heads ∧
      Sums painter (ofTranscript transcript expectations) last := by
  refine ⟨(expectations.map (judge transcript)).map (line painter), _, rfl, ?_, sums_lines _ painter⟩
  rw [List.map_map, List.forall₂_map_right_iff, List.forall₂_same]
  intro e _
  exact reports_line painter transcript e

/-- A verdict keeps to its counts, whatever the transcript and the expectations are; the order of the
expectations and their repetition leave the exit code as it is, text around the transcript fails no
entry that passed, and the report tells the same as the entries and the exit code.  So it does with
any colours; without colours and on a terminal the lines are known by how they begin. -/
theorem verdict_keeps_its_laws (transcript : String) (expectations : List Expectation) :
    Counts transcript expectations (ofTranscript transcript expectations) ∧
    (∀ others : List Expectation, (∀ e, e ∈ others ↔ e ∈ expectations) →
      (ofTranscript transcript others).exitCode =
        (ofTranscript transcript expectations).exitCode) ∧
    (∀ before after : String,
      List.Forall₂ (fun old new : Judged => old.passed = true → new.passed = true)
        (ofTranscript transcript expectations).outcomes
        (ofTranscript (before ++ transcript ++ after) expectations).outcomes) ∧
    (Painter.plain.TellsApart ∧ Painter.terminal.TellsApart) ∧
    ∀ painter : Painter, ∃ heads last,
      (ofTranscript transcript expectations).lines painter = heads ++ ["", last] ∧
      List.Forall₂ (fun e line => Reports painter transcript e line ∧
        (painter.TellsApart →
          ((painter.green "[PASS]").toList <+: line.toList ↔ Text.Occurs e.expected transcript)))
        expectations heads ∧
      Sums painter (ofTranscript transcript expectations) last ∧
      (painter = .terminal → ("\x1b[1m\x1b[32m".toList <+: last.toList ↔
        (ofTranscript transcript expectations).exitCode = 0)) := by
  refine ⟨counts_ofTranscript transcript expectations, fun others same => exitCode_congr same,
    forall₂_passed_within, ⟨Painter.tellsApart_plain, Painter.tellsApart_terminal⟩,
    fun painter => ?_⟩
  obtain ⟨heads, last, all, lines, sums⟩ := reports_lines transcript expectations painter
  refine ⟨heads, last, all,
    lines.imp fun e line reports => ⟨reports, fun apart => reports.starts_iff apart⟩, sums, ?_⟩
  rintro rfl
  exact sums.starts_iff

end Verdict

end ConsoleHarness
