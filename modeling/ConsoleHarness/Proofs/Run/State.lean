import ConsoleHarness.Proofs.Run.Incidents

/-! # What the state of a run tells

The state of a session is fixed when its transcript is sealed, by one mark that a delivered signal
leaves.  So a session that ends as killed had a signal delivered by then, and one that ends as
completed had none.  That does not tell whether its target is gone: a signal that was refused leaves
no mark, and such a session ends as completed without having seen an exit.
-/

namespace ConsoleHarness

namespace Bench

/-- The session counts as killed if and only if a signal was delivered. -/
theorem Accounted.requested_iff {b : Bench} (kept : Accounted b) :
    b.session.killRequested = true ↔ ∃ name, b.Saw (.killed name true) := by
  refine ⟨fun asked => ⟨_, kept.requested asked⟩, ?_⟩
  rintro ⟨name, entry, member, delivered⟩
  by_contra unasked
  have clean := kept.unasked (by simpa using unasked)
  have noted : name ∈ b.kills :=
    List.mem_filterMap.mpr ⟨entry, member, by rw [delivered]; rfl⟩
  rw [clean] at noted
  contradiction

end Bench

namespace RunSetup

section State

variable {setup : RunSetup} {target : Target} {files : Files} {report : RunReport}
  {b m c : Bench} {outcome : ScriptOutcome} {settled : Settled}

namespace Stages

variable (stages : Stages setup target files report b m outcome c settled)
include stages

/-- The settlement seals the transcript as its last deed, and nothing has sealed it before. -/
theorem sealing : ∃ before moment, c.history = before ++ [⟨moment, .sealed⟩] ∧
    ∀ entry ∈ before, entry.event ≠ .sealed := by
  obtain ⟨n, more, consumes, -, -, -, done⟩ :=
    Bench.settle_spec stages.opened outcome.status setup.config.timeouts true true
  obtain ⟨rfl, -⟩ := Prod.mk.inj (done.symm.trans stages.settles)
  refine ⟨n.history, n.clock, by rw [Bench.finish, Bench.history_note]; rfl, ?_⟩
  have script : Bench.Evolves [.world, .start, .consume, .prompt, .write, .kill, .tell]
      { target } m :=
    ((evolves_started stages.started).mono (by simp)).trans (stages.evolves_script.mono (by simp))
  have dismissed := Bench.evolves_dismiss m outcome.status setup.config.timeouts true true
  have whole := (script.trans (dismissed.mono (by simp))).trans (consumes.evolves.mono (by simp))
  intro entry member closing
  -- A sealing would have to be in the journal of the launch, which is empty.
  obtain ⟨other, there, -⟩ := whole.saw_of_saw (by simp [Event.deed]) ⟨entry, member, closing⟩
  simp [Bench.history] at there

/-- The settlement leaves no target alone: its exit is known, or a signal was sent to it. -/
theorem gone_or_signalled : (∃ exit, c.Saw (.exited exit)) ∨
    ∃ delivered, c.Saw (.killed "SIGKILL" delivered) := by
  have settled := Bench.evolves_settle_of_dismiss m outcome.status setup.config.timeouts true true
  have dismissed := Bench.dismissed_dismiss m outcome.status setup.config.timeouts true true
  rw [stages.settles] at settled
  by_cases overdue : m.Overdue outcome.status setup.config.timeouts.exit true
  · obtain ⟨delivered, sent⟩ := dismissed.signalled overdue
    rw [← settled.signalsIn_eq (by simp)] at sent
    have member : ("SIGKILL", delivered) ∈ signalsIn c.history := by rw [sent]; simp
    obtain ⟨entry, there, signal⟩ := List.mem_filterMap.mp member
    refine .inr ⟨delivered, entry, there, ?_⟩
    cases kind : entry.event with
    | killed name taken =>
      rw [kind] at signal
      obtain ⟨rfl, rfl⟩ := Prod.mk.inj (Option.some.inj signal)
      rfl
    | _ => rw [kind] at signal; contradiction
  · refine .inl (stages.accounted.informed.mp ?_)
    rw [Bench.Overdue, not_and_or, not_not] at overdue
    rcases overdue with running | exited
    · obtain ⟨exit, known⟩ := Option.ne_none_iff_exists'.mp running
      rw [stages.evolves_settle.exit_stays known]
      rfl
    · obtain ⟨exit, -, known⟩ := stages.exit_known exited
      rw [known]
      rfl

theorem state_eq : report.state = if c.session.killRequested then .killed else .completed :=
  stages.state.trans (Bench.settle_state stages.opened stages.running stages.settles)

end Stages

/-- However a target takes its signals: a run that comes to its report calls its session killed if
and only if a signal was delivered before the transcript was sealed.  It calls it completed
otherwise; by then either the target was seen to exit, or the signal that was to end it was
refused. -/
theorem state_tells_deliveries (launched : setup.launched = .ok target)
    (done : (setup.run files).report = .ok report) :
    ∃ before moment after,
      (setup.run files).bench.history = before ++ ⟨moment, .sealed⟩ :: after ∧
      (∀ entry ∈ before ++ after, entry.event ≠ .sealed) ∧
      (report.state = .killed ↔ ∃ entry ∈ before, ∃ name, entry.event = .killed name true) ∧
      (report.state ≠ .killed → report.state = .completed) ∧
      (report.state = .completed → (∃ entry ∈ before, ∃ exit, entry.event = .exited exit) ∨
        ∃ entry ∈ before, entry.event = .killed "SIGKILL" false) := by
  obtain ⟨b, m, outcome, c, settled, stages⟩ := exists_stages launched done
  obtain ⟨before, moment, sealing, fresh⟩ := stages.sealing
  obtain ⟨after, grown, kinds⟩ := stages.ended.news
  have requested := stages.accounted.requested_iff
  have saw_iff (event : Event) (other : event ≠ .sealed) :
      c.Saw event ↔ ∃ entry ∈ before, entry.event = event := by
    simp [Bench.Saw, sealing, Ne.symm other]
  have state := stages.state_eq
  have killed : report.state = .killed ↔
      ∃ entry ∈ before, ∃ name, entry.event = .killed name true := by
    have marked : report.state = .killed ↔ c.session.killRequested = true := by
      rw [state]
      cases c.session.killRequested <;> simp
    rw [marked, requested]
    simp only [saw_iff _ (by simp : Event.killed _ true ≠ .sealed)]
    constructor
    · rintro ⟨name, entry, member, same⟩
      exact ⟨entry, member, name, same⟩
    · rintro ⟨entry, member, name, same⟩
      exact ⟨name, entry, member, same⟩
  refine ⟨before, moment, after, by rw [grown, sealing]; simp, ?_, killed, ?_, ?_⟩
  · intro entry member closing
    rcases List.mem_append.mp member with old | new
    · exact fresh entry old closing
    · -- Behind the settlement a run seals nothing any more.
      have kind := kinds entry new
      rw [closing] at kind
      simp [Event.deed] at kind
  · rw [state]
    cases c.session.killRequested <;> simp
  · intro completed
    rcases stages.gone_or_signalled with ⟨exit, seen⟩ | ⟨delivered, seen⟩
    · obtain ⟨entry, member, same⟩ := (saw_iff _ (by simp)).mp seen
      exact .inl ⟨entry, member, exit, same⟩
    · obtain ⟨entry, member, same⟩ := (saw_iff _ (by simp)).mp seen
      cases delivered with
      | false => exact .inr ⟨entry, member, same⟩
      | true =>
        rw [killed.mpr ⟨entry, member, "SIGKILL", same⟩] at completed
        contradiction

/-- A run that is cancelled before it begins, and whose target cannot be killed. -/
def unkillable : RunSetup where
  config := { cancelled.config with timeouts := { exit := 10, killGrace := 10, drain := 0 } }
  launched := .ok { onKill := fun _ _ => .refused }
  cancellation := .given true

/-- The bench of this run when its script has been stopped. -/
def struck : Bench :=
  (((unkillable.opening { onKill := fun _ _ => .refused }).start.1.log true .info
    "Waiting for shell...").stopScript true [] (.promptInterrupted .boot)).1

/-- The same bench when the target was dismissed. -/
def dismissed : Bench := (struck.dismiss .interrupted unkillable.config.timeouts true true).1

/-- Without time to wait for more output, the drain finds none and the session ends. -/
theorem settle_struck :
    (struck.settle .interrupted unkillable.config.timeouts true true).1 = dismissed.finish := by
  have drained : dismissed.drain unkillable.config.timeouts.drain = (dismissed, .ok "") := by
    rw [Bench.drain, Bench.drainLoop]
    split
    · rename_i there
      have none : dismissed.session.takeChunk = none := by decide +kernel
      rw [none] at there
      contradiction
    · rw [dif_neg (by decide +kernel), dif_pos (by decide +kernel)]
  simp only [Bench.settle]
  rw [dismissed] at drained ⊢
  rw [drained]

theorem settled_unkillable {target : Target} (launched : unkillable.launched = .ok target)
    (stages : Stages unkillable target {} report b m outcome c settled) : c = dismissed.finish := by
  obtain rfl := Except.ok.inj launched
  obtain rfl : (unkillable.opening _).start.1 = b := by rw [stages.started]
  have scripted := stages.scripted
  rw [Bench.runScript, Bench.readUntil_of_aborted rfl (by decide)] at scripted
  obtain ⟨rfl, same⟩ := Prod.mk.inj scripted
  obtain rfl := Except.ok.inj same
  have ended : (struck.settle .interrupted unkillable.config.timeouts true true).1 = c :=
    congrArg Prod.fst stages.settles
  rw [← ended, settle_struck]

theorem completed_unkillable (done : (unkillable.run {}).report = .ok report) :
    report.state = .completed := by
  obtain ⟨b, m, outcome, c, settled, stages⟩ := exists_stages rfl done
  have unasked : dismissed.finish.session.killRequested = false := by decide +kernel
  rw [stages.state_eq, settled_unkillable rfl stages, unasked]
  rfl

theorem state_tells_deliveries_unkillable :
    ∃ report before moment after, (unkillable.run {}).report = .ok report ∧
      (unkillable.run {}).bench.history = before ++ ⟨moment, .sealed⟩ :: after ∧
      ((∃ entry ∈ before, ∃ exit, entry.event = .exited exit) ∨
        ∃ entry ∈ before, entry.event = .killed "SIGKILL" false) := by
  obtain ⟨report, done⟩ := exists_report (rfl : unkillable.launched = .ok _) (by decide) {}
  obtain ⟨before, moment, after, sealing, -, -, -, ended⟩ :=
    state_tells_deliveries (rfl : unkillable.launched = .ok _) done
  exact ⟨report, before, moment, after, done, sealing, ended (completed_unkillable done)⟩

/-- The session of such a run is called completed although no exit was seen. -/
theorem completed_without_exit :
    ∃ report before moment after, (unkillable.run {}).report = .ok report ∧
      report.state = .completed ∧
      (unkillable.run {}).bench.history = before ++ ⟨moment, .sealed⟩ :: after ∧
      ∀ entry ∈ before, ∀ exit, entry.event ≠ .exited exit := by
  obtain ⟨report, done⟩ := exists_report (rfl : unkillable.launched = .ok _) (by decide) {}
  obtain ⟨b, m, outcome, c, settled, stages⟩ :=
    exists_stages (rfl : unkillable.launched = .ok _) done
  have unknown : dismissed.finish.session.exit = none := by decide +kernel
  obtain ⟨before, moment, sealing, -⟩ := stages.sealing
  obtain ⟨after, grown, -⟩ := stages.ended.news
  refine ⟨report, before, moment, after, done, completed_unkillable done,
    by rw [grown, sealing]; simp, ?_⟩
  intro entry member exit same
  have known := stages.accounted.informed.mpr
    ⟨exit, entry, by rw [sealing]; exact List.mem_append_left _ member, same⟩
  rw [settled_unkillable rfl stages, unknown] at known
  contradiction

end State

end RunSetup

end ConsoleHarness
