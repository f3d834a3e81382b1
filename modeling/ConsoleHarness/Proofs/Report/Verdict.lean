import ConsoleHarness.Report.Verdict

/-! # What a verdict says

A verdict counts the expectations that were met.  It is good when all of them were, and an
expectation is met when its text stands somewhere in the transcript.
-/

namespace ConsoleHarness

theorem Text.occursIn_iff_isInfix {part whole : List Char} :
    Text.occursIn part whole = true ↔ part <:+: whole := by
  induction whole with
  | nil => simp [Text.occursIn]
  | cons c rest ih =>
    rw [Text.occursIn, Bool.or_eq_true, ih, List.isPrefixOf_iff_prefix, List.infix_cons_iff]

namespace Verdict

variable {transcript : String} {expectations : List Expectation}

theorem passed_judge (transcript : String) (e : Expectation) :
    (judge transcript e).passed = true ↔ e.expected.toList <:+: transcript.toList :=
  Text.occursIn_iff_isInfix

theorem passed_le_total :
    (ofTranscript transcript expectations).passed ≤
      (ofTranscript transcript expectations).total :=
  List.countP_le_length

theorem ok_iff_passed_eq_total : (ofTranscript transcript expectations).ok = true ↔
    (ofTranscript transcript expectations).passed =
      (ofTranscript transcript expectations).total :=
  beq_iff_eq

theorem ok_iff_forall_passed : (ofTranscript transcript expectations).ok = true ↔
    ∀ j ∈ (ofTranscript transcript expectations).outcomes, j.passed = true :=
  ok_iff_passed_eq_total.trans List.countP_eq_length

theorem exitCode_eq_zero_iff {v : Verdict} : v.exitCode = 0 ↔ v.ok = true := by
  unfold exitCode
  split <;> simp_all

/-- The exit code is zero exactly when every expected text occurs in the transcript. -/
theorem exitCode_ofTranscript :
    (ofTranscript transcript expectations).exitCode = 0 ↔
      ∀ e ∈ expectations, e.expected.toList <:+: transcript.toList := by
  rw [exitCode_eq_zero_iff, ok_iff_forall_passed]
  show (∀ j ∈ expectations.map (judge transcript), j.passed = true) ↔ _
  simp only [List.forall_mem_map, passed_judge]

theorem exitCode_cases (v : Verdict) : v.exitCode = 0 ∨ v.exitCode = 1 := by
  unfold exitCode
  split
  · exact .inl rfl
  · exact .inr rfl

end Verdict

end ConsoleHarness
