import ConsoleHarness.Proofs.Run.Course

/-! # No target is left behind

A run may kill its target at three places: after an exit wait that failed, after a script that did
not complete, and as a last resort.  `Bench.Accounted` is what all of them keep: signals are sent
only while no exit is known, at most one is delivered, and the session remembers that one.  The
last resort then finds a target that is gone, or one that was killed, or kills it.
-/

namespace ConsoleHarness

/-- A signal is sent only while no exit is known. -/
def Spared (before : List Entry) (event : Event) : Prop :=
  ∀ name delivered, event = .killed name delivered →
    ∀ entry ∈ before, ∀ exit, entry.event ≠ .exited exit

namespace Bench

/-- The session knows of the exits that have happened, and of no others. -/
def Informed (b : Bench) : Prop :=
  b.session.exit.isSome = true ↔ ∃ exit, b.Saw (.exited exit)

theorem Step.informed {deed : Deed} {b c : Bench} (step : Step deed b c) (informed : b.Informed) :
    c.Informed := by
  unfold Informed Saw at *
  by_cases outside : deed = .world
  · subst outside
    cases step with
    | alike same =>
      rw [same.session, history, same.journal]
      exact informed
    | exit onWire unknown => simp
    | arrive | close | abort | pause =>
      simpa [history, note, notePause, withSession] using informed
  · have still (exit : Exit) := step.saw_iff (Ne.symm outside : (Event.exited exit).deed ≠ deed)
    unfold Saw at still
    rw [step.exit_eq outside, informed]
    exact exists_congr fun exit => (still exit).symm

/-- What a run keeps of the signals to its target. -/
structure Accounted (b : Bench) : Prop where
  informed : b.Informed
  spared : Throughout Spared b.history
  single : b.kills.length ≤ 1
  unasked : b.session.killRequested = false → b.kills = []
  requested : b.session.killRequested = true → b.Saw (.killed "SIGKILL" true)

section Accounted

variable {deeds : List Deed} {b c : Bench}

theorem Evolves.informed (evolves : Evolves deeds b c) (informed : b.Informed) : c.Informed :=
  evolves.invariant Informed (fun _ _ _ _ step => step.informed) informed

theorem Evolves.kills_eq (evolves : Evolves deeds b c) (spared : .kill ∉ deeds) :
    c.kills = b.kills :=
  evolves.view_eq Event.kill? (by
    intro event kind
    cases event with
    | killed _ _ => exact absurd kind spared
    | _ => rfl)

theorem Evolves.spared (evolves : Evolves deeds b c) (spared : .kill ∉ deeds)
    (old : Throughout Spared b.history) : Throughout Spared c.history := by
  refine evolves.throughout (fun before event kind => ?_) old
  rintro name delivered rfl
  exact absurd kind spared

/-- Without a signal the account stays. -/
theorem Accounted.aside (kept : Accounted b) (evolves : Evolves deeds b c)
    (spared : .kill ∉ deeds) : Accounted c where
  informed := evolves.informed kept.informed
  spared := evolves.spared spared kept.spared
  single := by rw [evolves.kills_eq spared]; exact kept.single
  unasked := by
    rw [evolves.kills_eq spared, evolves.killRequested_eq spared]
    exact kept.unasked
  requested := by
    rw [evolves.killRequested_eq spared]
    exact fun asked => evolves.saw (kept.requested asked)

/-- A signal to a target that is not known to be gone, the first one, is accounted for. -/
theorem Accounted.kill (kept : Accounted b) (running : b.session.exit = none)
    (unasked : b.session.killRequested = false) :
    Accounted (b.kill "SIGKILL").1 ∧
      ∃ delivered, (b.kill "SIGKILL").1.Saw (.killed "SIGKILL" delivered) := by
  have clean := kept.unasked unasked
  -- What the session does not know of has not happened.
  have unseen : ∀ entry ∈ b.history, ∀ exit, entry.event ≠ .exited exit := by
    intro entry member exit same
    have known := kept.informed.mpr ⟨exit, entry, member, same⟩
    rw [running] at known
    contradiction
  have kills := kill_killsTo b "SIGKILL"
  generalize b.kill "SIGKILL" = result at kills
  cases kills with
  | @refused n step same noted =>
    have account : n.kills = [] := by
      rw [Bench.kills, noted, List.filterMap_append]
      change b.kills ++ [] = _
      rw [clean]
      rfl
    refine ⟨⟨step.informed kept.informed, ?_, ?_, fun _ => account, ?_⟩, false, ?_⟩
    · rw [noted]
      exact kept.spared.concat fun _ _ _ => unseen
    · rw [account]; simp
    · rw [same, unasked]; simp
    · exact ⟨⟨b.clock, _⟩, by rw [noted]; simp, rfl⟩
  | @delivered n m step same noted passes =>
    -- The target may react at once, but no reaction is another signal.
    have account : m.kills = ["SIGKILL"] := by
      rw [passes.kills_eq (by simp), Bench.kills, noted, List.filterMap_append]
      change b.kills ++ ["SIGKILL"] = _
      rw [clean]
      rfl
    have spared : Throughout Spared n.history := by
      rw [noted]
      exact kept.spared.concat fun _ _ _ => unseen
    have seen : m.Saw (.killed "SIGKILL" true) :=
      passes.saw ⟨⟨b.clock, _⟩, by rw [noted]; simp, rfl⟩
    have informed : m.Informed := passes.informed (step.informed kept.informed)
    refine ⟨⟨informed, passes.spared (by simp) spared, ?_, ?_, fun _ => seen⟩, true, seen⟩
    · change m.kills.length ≤ 1
      rw [account]
      simp
    · intro still
      contradiction

theorem Accounted.forceTerminate (kept : Accounted b) (unasked : b.session.killRequested = false)
    (grace : Millis) (logs : Bool) : Accounted (b.forceTerminate grace logs).1 := by
  rcases forceTerminate_cases b grace logs with ⟨_, same⟩ | ⟨running, after⟩
  · rw [same]
    exact kept
  · exact (kept.kill running unasked).1.aside after (by simp)

theorem Accounted.dismiss (kept : Accounted b) (unasked : b.session.killRequested = false)
    (status : ScriptStatus) (timeouts : Timeouts) (heeds logs : Bool) :
    Accounted (b.dismiss status timeouts heeds logs).1 := by
  obtain ⟨m, waited, _, same | same⟩ := dismiss_cases b status timeouts heeds logs
  · rw [same]
    exact kept.aside waited (by simp)
  · rw [same]
    have still := (waited.killRequested_eq (by simp)).trans unasked
    exact (kept.aside waited (by simp)).forceTerminate still _ _

theorem Accounted.settle (kept : Accounted b) (unasked : b.session.killRequested = false)
    (status : ScriptStatus) (timeouts : Timeouts) (heeds logs : Bool) :
    Accounted (b.settle status timeouts heeds logs).1 :=
  (kept.dismiss unasked status timeouts heeds logs).aside
    (evolves_settle_of_dismiss b status timeouts heeds logs) (by simp)

/-- The last resort leaves no target that is neither gone nor killed. -/
theorem Accounted.neverLeave (kept : Accounted b) :
    Accounted b.neverLeave ∧
      (b.neverLeave.session.exit.isSome = true ∨
        ∃ delivered, b.neverLeave.Saw (.killed "SIGKILL" delivered)) := by
  unfold Bench.neverLeave
  split
  · rename_i left
    simp only [Bool.and_eq_true, Option.isNone_iff_eq_none, Bool.not_eq_true'] at left
    obtain ⟨killed, seen⟩ := kept.kill left.1 left.2
    exact ⟨killed, .inr seen⟩
  · rename_i settled
    refine ⟨kept, ?_⟩
    -- No exit, no kill so far: that is just when the last resort strikes.
    cases known : b.session.exit with
    | some exit => exact .inl rfl
    | none =>
      cases asked : b.session.killRequested with
      | true => exact .inr ⟨true, kept.requested asked⟩
      | false =>
        rw [known, asked] at settled
        contradiction

theorem accounted_launch (target : Target) : Accounted { target } where
  informed := by simp [Informed, Saw, history]
  spared := throughout_nil
  single := Nat.zero_le 1
  unasked := fun _ => rfl
  requested := fun asked => by contradiction

theorem evolves_neverLeave (b : Bench) : Evolves [.world, .kill] b b.neverLeave := by
  unfold Bench.neverLeave
  split
  · exact evolves_kill b "SIGKILL"
  · exact .refl

end Accounted

end Bench

namespace RunSetup

section Kill

variable {setup : RunSetup} {target : Target} {b : Bench}

theorem evolves_started (started : (setup.opening target).start = (b, .ok ())) :
    Bench.Evolves [.world, .start, .tell] { target } b := by
  have begun := Bench.evolves_start (setup.opening target)
  rw [started] at begun
  exact ((evolves_opening setup target).mono (by simp)).trans (begun.mono (by simp))

/-- A session that has come to its end accounts for its signals. -/
theorem accounted_runStarted (started : (setup.opening target).start = (b, .ok ())) :
    Bench.Accounted (b.runStarted setup.config).1 := by
  have script := Bench.evolves_runScript b setup.config.script true true
  have begun : Bench.Evolves [.world, .start, .consume, .prompt, .write, .tell] { target }
      (b.runScript setup.config.script true true).1 :=
    ((evolves_started started).mono (by simp)).trans (script.mono (by simp))
  rcases Bench.runStarted_cases b setup.config with ⟨m, fault, scripted, done⟩ |
    ⟨m, outcome, scripted, settled⟩
  · rw [scripted] at begun
    rw [done]
    exact (Bench.accounted_launch target).aside begun (by simp)
  · rw [scripted] at begun
    have kept := (Bench.accounted_launch target).aside begun (by simp)
    have unasked : m.session.killRequested = false := begun.killRequested_eq (by simp)
    exact (kept.dismiss unasked _ _ _ _).aside settled (by simp)

/-- A script that completed and an exit that was seen in time need no signal. -/
theorem unkilled_runStarted (started : (setup.opening target).start = (b, .ok ())) {m : Bench}
    {outcome : ScriptOutcome}
    (scripted : b.runScript setup.config.script true true = (m, .ok outcome))
    (completed : outcome.status = .completed)
    (seen : (m.awaitExit setup.config.timeouts.exit true).1.session.exit.isSome = true) :
    Bench.Evolves [.world, .start, .consume, .prompt, .write, .seal, .tell] { target }
        (b.runStarted setup.config).1 ∧
      (b.runStarted setup.config).1.session.exit.isSome = true := by
  have script := Bench.evolves_runScript b setup.config.script true true
  rw [scripted] at script
  rcases Bench.runStarted_cases b setup.config with ⟨_, _, other, _⟩ | ⟨n, ended, other, settled⟩
  · rw [scripted] at other
    simp at other
  · obtain ⟨rfl, same⟩ := Prod.mk.inj (scripted.symm.trans other)
    obtain rfl := Except.ok.inj same
    obtain ⟨k, waited, told, gone⟩ :=
      Bench.dismiss_cases m outcome.status setup.config.timeouts true true
    obtain ⟨exit, known⟩ := Option.isSome_iff_exists.mp seen
    have stays := (told completed).exit_stays known
    -- Even where the target would be killed, the known exit spares it.
    have dismissed : (m.dismiss outcome.status setup.config.timeouts true true).1 = k := by
      rcases gone with same | same
      · exact same
      · rcases Bench.forceTerminate_cases k setup.config.timeouts.killGrace true with
          ⟨_, spared⟩ | ⟨unknown, _⟩
        · exact same.trans spared
        · rw [stays] at unknown
          contradiction
    rw [dismissed] at settled
    refine ⟨?_, by rw [settled.exit_stays stays]; rfl⟩
    exact (((evolves_started started).mono (by simp)).trans (script.mono (by simp))).trans
      ((waited.mono (by simp)).trans (settled.mono (by simp)))

theorem evolves_whole (launched : setup.launched = .ok target) (files : Files) :
    Bench.Evolves Deed.all { target } (setup.run files).bench := by
  obtain ⟨b, started, _⟩ := start_opening setup target
  have begun := (evolves_started started).mono (by decide : _ ⊆ Deed.all)
  have left := (Bench.evolves_neverLeave (b.runStarted setup.config).1).mono
    (by decide : _ ⊆ Deed.all)
  have ended := (evolves_run launched started files).mono (by decide : _ ⊆ Deed.all)
  exact ((begun.trans (Bench.evolves_runStarted b setup.config)).trans left).trans ended

/-- Such a run sends no signal at all. -/
theorem unkilled_run (launched : setup.launched = .ok target)
    (started : (setup.opening target).start = (b, .ok ())) {m : Bench} {outcome : ScriptOutcome}
    (scripted : b.runScript setup.config.script true true = (m, .ok outcome))
    (completed : outcome.status = .completed)
    (seen : (m.awaitExit setup.config.timeouts.exit true).1.session.exit.isSome = true)
    (files : Files) (name : String) (delivered : Bool) :
    ¬ (setup.run files).bench.Saw (.killed name delivered) := by
  intro killed
  obtain ⟨quiet, known⟩ := unkilled_runStarted started scripted completed seen
  have ended := evolves_run launched started files
  have unneeded : (b.runStarted setup.config).1.neverLeave = (b.runStarted setup.config).1 := by
    obtain ⟨exit, known⟩ := Option.isSome_iff_exists.mp known
    simp [Bench.neverLeave, known]
  rw [unneeded] at ended
  -- So a signal would have to be in the journal of the launch, which is empty.
  have before := ended.saw_of_saw (by simp [Event.deed]) killed
  obtain ⟨entry, there, _⟩ := quiet.saw_of_saw (by simp [Event.deed]) before
  simp [Bench.history] at there

/-- However a run with a launched target ends, with a report or with a fault: the exit of the target
is known or it was killed; at most one signal was delivered, and each was sent while no exit was
known; and none was sent at all if the script completed and the exit was known after the wait for
it. -/
theorem target_never_left (launched : setup.launched = .ok target) (files : Files) :
    ((setup.run files).bench.session.exit.isSome = true ∨
        ∃ delivered, (setup.run files).bench.Saw (.killed "SIGKILL" delivered)) ∧
      (setup.run files).bench.kills.length ≤ 1 ∧
      (∀ before moment name delivered after,
        (setup.run files).bench.history = before ++ ⟨moment, .killed name delivered⟩ :: after →
          ∃ now, Bench.Evolves Deed.all { target } now ∧
            Bench.Evolves Deed.all now (setup.run files).bench ∧
            now.history = before ∧ now.session.exit = none) ∧
      ∀ m outcome,
        (setup.opening target).start.1.runScript setup.config.script true true = (m, .ok outcome) →
        outcome.status = .completed →
        (m.awaitExit setup.config.timeouts.exit true).1.session.exit.isSome = true →
          ∀ name delivered, ¬ (setup.run files).bench.Saw (.killed name delivered) := by
  obtain ⟨b, started, _⟩ := start_opening setup target
  have ended := evolves_run launched started files
  obtain ⟨left, gone⟩ := (accounted_runStarted started).neverLeave
  have kept := left.aside ended (by simp)
  refine ⟨?_, kept.single, ?_, ?_⟩
  · rcases gone with known | ⟨delivered, seen⟩
    · obtain ⟨exit, known⟩ := Option.isSome_iff_exists.mp known
      exact .inl (by rw [ended.exit_stays known]; rfl)
    · exact .inr ⟨delivered, ended.saw seen⟩
  · intro before moment name delivered after split
    have whole := evolves_whole launched files
    obtain ⟨now, next, deed, reached, member, step, onward, here, -⟩ :=
      whole.exists_step split (by simp [Bench.history])
    refine ⟨now, reached, (Bench.Evolves.of_step step member).trans onward, here, ?_⟩
    -- An exit known at that moment would stand in the history before the signal.
    have informed := reached.informed (Bench.accounted_launch target).informed
    cases known : now.session.exit with
    | none => rfl
    | some exit =>
      obtain ⟨other, entry, there, same⟩ := informed.mp (by rw [known]; rfl)
      rw [here] at there
      exact absurd same (kept.spared before _ after split name delivered rfl entry there other)
  · intro m outcome scripted completed seen
    rw [started] at scripted
    exact unkilled_run launched started scripted completed seen files

/-- A run that raises a fault: it has no prompt to wait for, and a target that ignores signals. -/
def promptless : RunSetup where
  config :=
    { emulator := { command := "emulator", args := [] }
      script :=
        { prompt := "", bootTimeout := 10, promptTimeout := 10, settle := 0, commands := [],
          shutdownCommand := "poweroff" }
      timeouts := { exit := 10, killGrace := 10, drain := 10 }
      artifactPath := "out.txt"
      mirror := .off
      expectations := [] }
  launched := .ok { onKill := fun _ _ => .ignored }

theorem target_never_left_promptless :
    ((promptless.run {}).bench.session.exit.isSome = true ∨
        ∃ delivered, (promptless.run {}).bench.Saw (.killed "SIGKILL" delivered)) ∧
      (promptless.run {}).bench.kills.length ≤ 1 := by
  obtain ⟨gone, single, _, _⟩ := target_never_left (rfl : promptless.launched = .ok _) {}
  exact ⟨gone, single⟩

end Kill

end RunSetup

end ConsoleHarness
