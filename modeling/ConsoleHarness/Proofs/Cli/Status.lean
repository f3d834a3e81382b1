import ConsoleHarness.Cli.Basic
import ConsoleHarness.Proofs.Run.Verdict

/-! # What an exit status says

The status is asked for in three places of a run and turned into the exit code in a fourth.
`World.Ends` lists how the run command can end: what status it has asked for by then, and with what
it leaves its program.  It asks for success only behind a verdict, and nothing behind a verdict
takes that back.
-/

namespace ConsoleHarness

/-! ## Programs of effects -/

namespace Effect

variable {α β : Type}

@[simp] theorem bind_ok {effect : Effect α} {next : α → Effect β} {p q : Process} {a : α}
    (done : effect p = (.ok a, q)) : (effect >>= next) p = next a q := by
  show (match effect p with | (result, q) => ExceptT.bindCont next result q) = next a q
  rw [done]
  rfl

@[simp] theorem bind_error {effect : Effect α} {next : α → Effect β} {p q : Process} {cause : Cause}
    (done : effect p = (.error cause, q)) : (effect >>= next) p = (.error cause, q) := by
  show (match effect p with | (result, q) => ExceptT.bindCont next result q) = _
  rw [done]
  rfl

end Effect

namespace World

/-- How the run command can end, with the status that it has asked for. -/
inductive Ends (w : World) (overrides : Overrides) : Except Cause Unit × Process → Prop
  /-- It was interrupted before there was a configuration. -/
  | interrupted {p} (struck : w.struck = some .loading) (asked : p.status = some 1) :
      Ends w overrides (.error .interrupted, p)
  /-- The configuration was refused, and the refusal was handled. -/
  | refused {p refusal} (loads : (w.sources overrides).load = .error refusal)
      (asked : p.status = some 1) : Ends w overrides (.ok (), p)
  /-- The harness had a defect. -/
  | died {p loaded fault cause} (loads : (w.sources overrides).load = .ok loaded)
      (failed : ((w.setup loaded.config).run w.files).report = .error fault)
      (asked : p.status = some 1) (defect : cause.isInterruptedOnly = false) :
      Ends w overrides (.error cause, p)
  /-- The harness gave a report; an interruption may have struck meanwhile. -/
  | judged {p loaded report exit} (calm : w.struck ≠ some .loading)
      (loads : (w.sources overrides).load = .ok loaded)
      (done : ((w.setup loaded.config).run w.files).report = .ok report)
      (asked : p.status = some report.exitCode)
      (left : exit = .ok () ∨ exit = .error .interrupted) : Ends w overrides (exit, p)

section Ends

variable {w : World} {overrides : Overrides} {loaded : Loaded}

theorem loadConfig_struck (struck : w.struck = some .loading) (p : Process) :
    w.loadConfig overrides p = (.error .interrupted, p) := by
  rw [loadConfig, if_pos struck]
  rfl

theorem loadConfig_refused (calm : w.struck ≠ some .loading) {refusal : ConfigError}
    (loads : (w.sources overrides).load = .error refusal) (p : Process) :
    w.loadConfig overrides p = (.error (.failed refusal.message), p) := by
  rw [loadConfig, if_neg calm, loads]
  rfl

theorem loadConfig_loaded (calm : w.struck ≠ some .loading)
    (loads : (w.sources overrides).load = .ok loaded) (p : Process) :
    ∃ q, w.loadConfig overrides p = (.ok loaded, q) ∧ q.status = p.status := by
  rw [loadConfig, if_neg calm, loads]
  exact ⟨_, rfl, rfl⟩

/-- The harness asks for no status itself. -/
theorem runHarness_judged {report : RunReport}
    (done : ((w.setup loaded.config).run w.files).report = .ok report) (p : Process) :
    ∃ q, w.runHarness loaded p = (.ok report, q) ∧ q.status = p.status := by
  rw [runHarness, done]
  exact ⟨_, rfl, rfl⟩

theorem runHarness_died {fault : Fault}
    (failed : ((w.setup loaded.config).run w.files).report = .error fault) (p : Process) :
    ∃ q, w.runHarness loaded p = (.error (.died fault), q) ∧ q.status = p.status := by
  rw [runHarness, failed]
  exact ⟨_, rfl, rfl⟩

theorem ends_runCommand (w : World) (overrides : Overrides) (p : Process) :
    w.Ends overrides (w.runCommand overrides p) := by
  have asked : Effect.setStatus 1 p = (.ok (), { p with status := some 1 }) := rfl
  rw [runCommand, Effect.catchAll, runToVerdict, Effect.bind_ok asked]
  by_cases struck : w.struck = some .loading
  · rw [Effect.bind_error (loadConfig_struck struck _)]
    exact .interrupted struck rfl
  · cases loads : (w.sources overrides).load with
    | error refusal =>
      rw [Effect.bind_error (loadConfig_refused struck loads _)]
      exact .refused loads rfl
    | ok loaded =>
      obtain ⟨q, done, same⟩ := loadConfig_loaded struck loads { p with status := some 1 }
      rw [Effect.bind_ok done, Effect.uninterruptible]
      cases ran : ((w.setup loaded.config).run w.files).report with
      | error fault =>
        obtain ⟨r, failed, still⟩ := runHarness_died ran q
        rw [Effect.bind_error failed]
        -- A defect stays one behind which the interruption takes effect.
        cases decide (w.struck = some .running) with
        | true => exact .died loads ran (still.trans same) rfl
        | false => exact .died loads ran (still.trans same) rfl
      | ok report =>
        obtain ⟨r, judged, still⟩ := runHarness_judged ran q
        rw [Effect.bind_ok judged]
        cases decide (w.struck = some .running) with
        | true => exact .judged struck loads ran rfl (.inr rfl)
        | false => exact .judged struck loads ran rfl (.inl rfl)

end Ends

/-- A configuration was loaded, and the harness has found in its transcript whatever is expected. -/
def Succeeds (w : World) (overrides : Overrides) : Prop :=
  w.struck ≠ some .loading ∧ ∃ loaded report, (w.sources overrides).load = .ok loaded ∧
    ((w.setup loaded.config).run w.files).report = .ok report ∧
    ∀ e ∈ loaded.config.expectations, e.expected.toList <:+: report.transcript.toList

/-- The exit code of the run command tells whether there is a verdict, and a good one; any other end
gives the same failure. -/
theorem teardown_of_ends {w : World} {overrides : Overrides} {exit : Except Cause Unit}
    {p : Process} (ends : w.Ends overrides (exit, p)) :
    (teardown exit p.status = 0 ∧ w.Succeeds overrides) ∨
      (teardown exit p.status = 1 ∧ ¬ w.Succeeds overrides) := by
  cases ends with
  | interrupted struck asked => exact .inr ⟨by rw [asked]; rfl, fun good => good.1 struck⟩
  | refused loads asked =>
    refine .inr ⟨by rw [asked]; rfl, ?_⟩
    rintro ⟨_, loaded, _, loadsToo, _⟩
    rw [loads] at loadsToo
    contradiction
  | died loads failed asked defect =>
    refine .inr ⟨by rw [teardown, defect]; rfl, ?_⟩
    rintro ⟨_, other, report, loadsToo, done, _⟩
    obtain rfl := Except.ok.inj (loads.symm.trans loadsToo)
    rw [failed] at done
    contradiction
  | @judged _ loaded report _ calm loads done asked left =>
    have code : teardown exit p.status = report.exitCode := by
      rw [asked]
      rcases left with rfl | rfl <;> rfl
    obtain ⟨verdict, same⟩ := RunSetup.verdict_eq done
    rw [code, same, verdict]
    by_cases good :
        ∀ e ∈ loaded.config.expectations, e.expected.toList <:+: report.transcript.toList
    · exact .inl ⟨Verdict.exitCode_ofTranscript.mpr good, calm, loaded, report, loads, done, good⟩
    · have bad := mt Verdict.exitCode_ofTranscript.mp good
      refine .inr ⟨(Verdict.exitCode_cases _).resolve_left bad, ?_⟩
      rintro ⟨_, other, report', loadsToo, doneToo, good'⟩
      obtain rfl := Except.ok.inj (loads.symm.trans loadsToo)
      obtain rfl := Except.ok.inj (done.symm.trans doneToo)
      exact good good'

/-- Whatever the flags, the environment, the files and the target: a run exits with zero if and only
if its configuration was loaded and the harness returned a report whose transcript has every
expected text, and with one otherwise.  That its target was killed, that it was interrupted behind
its configuration, or that its transcript could not be kept makes no difference.

Nor does it matter how the command line and the document are read, or what a file of variables adds
to the environment. -/
theorem run_exit_code (w : World) {args : List String} {overrides : Overrides}
    (asked : w.read (if args.isEmpty then ["run"] else args) = .run overrides) :
    ((w.invoke args).exitCode = 0 ↔ w.Succeeds overrides) ∧
      ((w.invoke args).exitCode = 1 ↔ ¬ w.Succeeds overrides) := by
  have ends := ends_runCommand w overrides { files := w.files }
  cases done : w.runCommand overrides { files := w.files } with
  | mk exit p =>
    rw [done] at ends
    have invoked : (w.invoke args).exitCode = teardown exit p.status := by
      have ordered : w.program args = w.runCommand overrides := by rw [program, asked]
      rw [invoke, ordered, done]
    rw [invoked]
    rcases teardown_of_ends ends with ⟨code, good⟩ | ⟨code, bad⟩
    · rw [code]
      exact ⟨iff_of_true rfl good, iff_of_false (by simp) (not_not_intro good)⟩
    · rw [code]
      exact ⟨iff_of_false (by simp) bad, iff_of_true rfl bad⟩

/-- Surroundings in which every emulator says everything and no prompt.  There is no document, and a
file of variables asks for the plain mirror. -/
def talkative : World where
  added := [(Environment.mirrorVariable, "plain")]
  launch := fun _ => .ok RunSetup.talker

/-- Although no prompt came and the script was stopped, every expected text was said. -/
theorem run_exit_code_talkative :
    (talkative.invoke []).exitCode = 0 ∧ talkative.Succeeds {} := by
  have asked : talkative.read (if ([] : List String).isEmpty then ["run"] else []) = .run {} := rfl
  have loads : (talkative.sources {}).load = .ok ⟨RunSetup.talking.config, []⟩ := rfl
  have good : talkative.Succeeds {} := by
    obtain ⟨report, done, said, -⟩ :=
      RunSetup.Talking.exists_report {} RunSetup.talking.config.artifactPath talkative.files
    refine ⟨by decide, _, report, loads, done, ?_⟩
    rw [said]
    decide +kernel
  exact ⟨(run_exit_code talkative asked).1.mpr good, good⟩

end World

end ConsoleHarness
