import ConsoleHarness.Proofs.Bench.Callbacks
import ConsoleHarness.Proofs.Run.Kill

/-! # Runs that are interrupted

A run hands nothing to its target once it is cancelled, and kills a target that is left at the very
moment at which its script has returned: between the two the run only logs.

That nothing is handed over holds of callbacks that only take what they are given
(`Callbacks.Receive`).  A callback that cancels the run behind the last look of the script lets one
text slip out, and no more.
-/

namespace ConsoleHarness

namespace Bench

/-- In the history of `c` a signal is sent at the moment of `m`, before anything but talk has
happened since. -/
def StruckAt (m c : Bench) : Prop :=
  ∃ told delivered rest, (∀ entry ∈ told, entry.event.deed = .tell) ∧
    c.history = m.history ++ told ++ ⟨m.clock, .killed "SIGKILL" delivered⟩ :: rest

section Struck

variable {deeds : List Deed} {m n c d : Bench}

theorem StruckAt.onward (struck : StruckAt m c) (evolves : Evolves deeds c d) : StruckAt m d := by
  obtain ⟨told, delivered, rest, talk, grown⟩ := struck
  obtain ⟨news, later, -⟩ := evolves.news
  refine ⟨told, delivered, rest ++ news, talk, ?_⟩
  rw [later, grown, List.append_assoc, List.cons_append]

theorem StruckAt.saw (struck : StruckAt m c) :
    ∃ delivered, c.Saw (.killed "SIGKILL" delivered) := by
  obtain ⟨told, delivered, rest, -, grown⟩ := struck
  exact ⟨delivered, ⟨m.clock, .killed "SIGKILL" delivered⟩, by rw [grown]; simp, rfl⟩

theorem Signalled.struckAt (signalled : Signalled "SIGKILL" n c) (logged : Evolves [.tell] m n) :
    StruckAt m c := by
  obtain ⟨delivered, rest, _, grown⟩ := signalled.noted
  obtain ⟨told, talked, kinds⟩ := logged.news
  refine ⟨told, delivered, rest, fun entry member => List.mem_singleton.mp (kinds entry member), ?_⟩
  rw [grown, talked, logged.clock_eq (by simp)]

/-- A wait for the exit that finds the run cancelled ends at once, and so does the target. -/
theorem dismiss_cancelled {b : Bench} (cancelled : b.aborted = true)
    (running : b.session.exit = none) (status : ScriptStatus) (timeouts : Timeouts) (logs : Bool) :
    ∃ n, Evolves [.tell] b n ∧ (b.dismiss status timeouts true logs).1 =
      (n.forceTerminate timeouts.killGrace logs).1 := by
  cases status with
  | completed =>
    have waited : b.awaitExit timeouts.exit true = (b, .interrupted) := by
      rw [awaitExit, if_neg (by simp [running]), if_pos (by simp [cancelled])]
    refine ⟨b.log logs .warn Incident.interruptedExit.message, evolves_log b _ _ _, ?_⟩
    simp only [dismiss, waited, endForcibly]
  | aborted | interrupted =>
    exact ⟨_, evolves_log b logs .warn _, rfl⟩

/-- If the run is cancelled when its script returns and the target is left, this is killed at once,
whatever the script has come to. -/
theorem struckAt_afterScript {m : Bench} (cancelled : m.aborted = true)
    (running : m.session.exit = none) (unasked : m.session.killRequested = false)
    (config : Config) (result : Except Fault ScriptOutcome) :
    StruckAt m (afterScript config (m, result)).1.neverLeave := by
  cases result with
  | error fault =>
    -- The session ends here; only the last resort is left.
    rw [afterScript, neverLeave, running, unasked]
    exact (signalled_kill m "SIGKILL").struckAt .refl
  | ok outcome =>
    have settled := evolves_afterScript_of_dismiss m outcome config
    obtain ⟨n, logged, dismissed⟩ :=
      dismiss_cancelled cancelled running outcome.status config.timeouts true
    have signalled := signalled_forceTerminate ((logged.exit_eq (by simp)).trans running)
      config.timeouts.killGrace true
    rw [dismissed] at settled
    exact ((signalled.struckAt logged).onward settled).onward (evolves_neverLeave _)

end Struck

end Bench

namespace RunSetup

section Interrupt

variable {setup : RunSetup} {target : Target}

theorem obeys_started {b : Bench} (started : (setup.opening target).start = (b, .ok ())) :
    b.Obeys :=
  Bench.Obeys.aside ⟨Bench.heard_launched target, throughout_nil⟩ (evolves_started started)
    (by simp)

/-- A run whose callbacks only take what they are given is the run without them. -/
theorem runWith_eq_run {callbacks : Callbacks} (receive : callbacks.Receive) (setup : RunSetup)
    (files : Files) : setup.runWith callbacks files = setup.run files := by
  have same (b : Bench) (config : Config) :
      b.runSessionWith callbacks config = b.runSession config := by
    simp only [Bench.runSessionWith, Bench.runScriptWith_eq receive]
    rfl
  simp only [runWith, same]
  rfl

/-- A run with a launched target, whose script has callbacks, from the start of its session on. -/
theorem runWith_eq (launched : setup.launched = .ok target) {b : Bench}
    (started : (setup.opening target).start = (b, .ok ())) (callbacks : Callbacks)
    (files : Files) :
    setup.runWith callbacks files =
      setup.ending files
        ((Bench.afterScript setup.config
          (b.runScriptWith callbacks setup.config.script true true)).map
            (Bench.detach ∘ Bench.neverLeave) id) := by
  unfold runWith
  rw [launched]
  dsimp only
  rw [Bench.runSessionWith, started]
  rfl

/-- A target that prompts, in a run that is cancelled a little later. -/
def prompter : Target where
  events :=
    [{ after := some 5, action := .emit "$ ".toUTF8.toList },
      { after := some 8, action := .interrupt }]

/-- A run with that target.  Its only line is sent at once, and followed by a longer pause. -/
def disturbed : RunSetup where
  config :=
    { emulator := { command := "emulator", args := [] }
      script :=
        { prompt := "$ ", bootTimeout := 20, promptTimeout := 20, settle := 10, commands := [],
          shutdownCommand := "poweroff" }
      timeouts := { exit := 10, killGrace := 10, drain := 10 }
      artifactPath := "out.txt"
      mirror := .off
      expectations := [] }
  launched := .ok prompter

namespace Disturbed

/-- The bench when the session has started, when the prompt has come, when it was read, and when the
script returns. -/
def started : Bench := (disturbed.opening prompter).start.1

def prompted : Bench := (started.log true .info "Waiting for shell...").waitForOutput 20 true

def invited : Bench := (prompted.recordMarked "$ " { prompted.session with pending := [] } 2).1

def returned : Bench := (invited.runCommands disturbed.config.script true true [] []).1

theorem runScript_eq :
    started.runScript disturbed.config.script true true =
      invited.runCommands disturbed.config.script true true [] [] := by
  have read : prompted.recordMarked "$ " { prompted.session with pending := [] } 2 =
      (invited, .ok "$ ") := Prod.ext rfl (by decide +kernel)
  have first : (started.log true .info "Waiting for shell...").readUntil
      disturbed.config.script.prompt disturbed.config.script.bootTimeout true =
        (invited, .ok ⟨.marker, "" ++ "$ ", _⟩) :=
    Bench.readUntil_of_awaited (by decide) (by decide +kernel) (by decide +kernel)
      (by decide +kernel : prompted.session.takeChunk = _) (by decide +kernel) read
  rw [Bench.runScript, first]
  rfl

end Disturbed

end Interrupt

end RunSetup

end ConsoleHarness
