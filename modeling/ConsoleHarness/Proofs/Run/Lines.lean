import ConsoleHarness.Proofs.Bench.Punctual
import ConsoleHarness.Proofs.Config.Safe

/-! # Lines and prompts

What a run hands to its target are the lines of its script, in order, each with a newline behind it
and each only after one more prompt.  The prompts are counted against the texts, though, and not
against the lines that the target sees, and nothing keeps a newline out of a line of the
configuration.  So the prompts bound the texts whatever is configured (`RunSetup.Spoken`), and the
newlines only if the configured lines have none of their own.
-/

namespace ConsoleHarness

/-- The number of prompts that were found. -/
def promptsIn (history : List Entry) : Nat := history.countP (·.event = .prompted)

/-- The number of newlines in some texts. -/
def newlinesIn (texts : List String) : Nat := (texts.map (·.toList.count '\n')).sum

theorem length_readsIn (history : List Entry) : (readsIn history).1.length = promptsIn history := by
  induction history using List.reverseRecOn with
  | nil => rfl
  | append_singleton front last ih =>
    rw [promptsIn] at ih ⊢
    rw [readsIn_concat, List.countP_append, ← ih]
    cases kind : last.event <;> simp [readsAfter, kind]

/-- No more texts are handed over than prompts were found. -/
theorem length_handedIn_le {prompt : String} {history : List Entry}
    (earned : Throughout (Earned prompt) history) :
    (handedIn history).length ≤ promptsIn history := by
  induction history using List.reverseRecOn with
  | nil => exact Nat.zero_le _
  | append_singleton front last ih =>
    have before := ih (earned.of_isPrefix (List.prefix_append ..))
    rw [← length_readsIn] at before ⊢
    rw [handedIn_append, readsIn_concat, List.length_append]
    cases kind : last.event with
    | wrote text accepted =>
      -- The text is earned by a prompt that was found before it.
      obtain ⟨counted, -⟩ := earned front last [] rfl text accepted kind
      simp [handedIn, kind, Event.handed?, readsAfter, counted]
    | prompted =>
      simp [handedIn, kind, Event.handed?, readsAfter] at before ⊢
      omega
    | _ => simpa [handedIn, kind, Event.handed?, readsAfter] using before

/-- Each line is handed over with one newline of its own. -/
theorem newlinesIn_handed (sent : List String) :
    newlinesIn (sent.map (· ++ "\n")) = sent.length + newlinesIn sent := by
  induction sent with
  | nil => rfl
  | cons line rest ih =>
    simp only [newlinesIn, List.map_cons, List.sum_cons, List.length_cons] at ih ⊢
    rw [ih, String.toList_append, List.count_append]
    show _ + 1 + _ = _
    omega

namespace RunSetup

variable {setup : RunSetup} {files : Files} {before : List Entry}

/-- What is handed over in the course of a run, and what has to come before it. -/
structure Spoken (script : Script) (history : List Entry) : Prop where
  earned : Throughout (Earned script.prompt) history
  handed : handedIn history <+: script.lines.map (· ++ "\n")

theorem Spoken.of_isPrefix {script : Script} {history : List Entry} (spoken : Spoken script history)
    (earlier : before <+: history) : Spoken script before where
  earned := spoken.earned.of_isPrefix earlier
  handed := by
    have handed := spoken.handed
    obtain ⟨news, rfl⟩ := earlier
    rw [handedIn_append] at handed
    exact (List.prefix_append ..).trans handed

/-- Where nothing is written, nothing is said. -/
theorem Spoken.evolve {script : Script} {deeds : List Deed} {b c : Bench}
    (spoken : Spoken script b.history) (evolves : Bench.Evolves deeds b c)
    (unwritten : .write ∉ deeds) : Spoken script c.history where
  earned := evolves.earned unwritten spoken.earned
  handed := by rw [evolves.handedIn_eq unwritten]; exact spoken.handed

theorem spoken_run (filled : setup.config.script.prompt ≠ "") (files : Files) :
    Spoken setup.config.script (setup.run files).bench.history := by
  cases launched : setup.launched with
  | error reason =>
    have silent : Spoken setup.config.script (Bench.history {}) :=
      ⟨throughout_nil, List.nil_prefix⟩
    have opened : Bench.Evolves [.world, .tell] {} (setup.opening {}).detach :=
      (evolves_opening setup {}).trans (.of_passes Bench.Alike.detach.passes (by simp))
    rw [run, launched]
    exact silent.evolve opened (by simp)
  | ok target =>
    obtain ⟨b, started, fresh⟩ := start_opening setup target
    obtain ⟨c, outcome, scripted, shaken⟩ := Bench.runScript_handshake fresh filled true true
    have spoken : Spoken setup.config.script c.history := ⟨shaken.earned, shaken.handed⟩
    -- Behind the script nothing is written any more.
    exact ((spoken.evolve (Bench.evolves_runStarted_of_runScript scripted) (by simp)).evolve
      (Bench.evolves_neverLeave _) (by simp)).evolve (evolves_run launched started files) (by simp)

end RunSetup

open RunSetup in
/-- With any configuration that is loaded, at any moment of any run: what was handed to the target
are lines of the script, in order, each with a newline behind it, and no more of them than prompts
were found.  So there are no more newlines than prompts if the lines of the script have none of
their own. -/
theorem lines_follow_prompts {s : Sources} {loaded : Loaded} (done : s.load = .ok loaded)
    {setup : RunSetup} (same : setup.config = loaded.config) (files : Files) {before : List Entry}
    (earlier : before <+: (setup.run files).bench.history) :
    ∃ sent, sent <+: loaded.config.script.lines ∧ handedIn before = sent.map (· ++ "\n") ∧
      sent.length ≤ promptsIn before ∧
      newlinesIn (handedIn before) = sent.length + newlinesIn sent ∧
      ((∀ line ∈ loaded.config.script.lines, '\n' ∉ line.toList) →
        newlinesIn (handedIn before) ≤ promptsIn before) := by
  have filled : setup.config.script.prompt ≠ "" := by
    rw [same]
    exact (Sources.safe_load done).prompt
  obtain ⟨earned, handed⟩ := (spoken_run filled files).of_isPrefix earlier
  rw [same] at handed
  obtain ⟨sent, part, said⟩ := List.prefix_map_iff.mp handed
  have counted : sent.length ≤ promptsIn before := by
    have bound := length_handedIn_le earned
    rwa [said, List.length_map] at bound
  refine ⟨sent, part, said, counted, by rw [said, newlinesIn_handed], fun single => ?_⟩
  have none : newlinesIn sent = 0 := by
    refine List.sum_eq_zero_iff_forall_eq_nat.mpr fun count member => ?_
    obtain ⟨line, among, rfl⟩ := List.mem_map.mp member
    exact List.count_eq_zero.mpr (single line (part.subset among))
  rw [said, newlinesIn_handed, none]
  exact counted

/-! ### A line that is two -/

/-- A configuration file with a newline in its shutdown command. -/
def twoLines : Sources where
  files :=
    { tree := .folder [("harness.yaml", .file
        "timeouts:\n  bootMs: 20\n  settleMs: 0\ncommands: []\nshutdownCommand: \"halt\\nls\"\n")] }

/-- What is loaded from it, and a target that prompts. -/
def halting : RunSetup where
  config :=
    { emulator :=
        { command := Emulator.defaultCommand, args := Emulator.argsFor Emulator.defaultImage,
          cwd := some "/" }
      script :=
        { prompt := "> ", bootTimeout := 20, promptTimeout := 5000, settle := 0, commands := [],
          shutdownCommand := "halt\nls" }
      timeouts := { exit := 5000, killGrace := 2000, drain := 1000 }
      artifactPath := "/test_output.txt"
      mirror := .raw
      expectations := Expectation.defaults }
  launched := .ok { events := [{ after := some 5, action := .emit "> ".toUTF8.toList }] }

theorem load_twoLines : twoLines.load = .ok ⟨halting.config, []⟩ := by decide +kernel

theorem lines_follow_prompts_halting :
    ∃ sent, sent <+: ["halt\nls"] ∧
      handedIn (halting.run {}).bench.history = sent.map (· ++ "\n") ∧
      sent.length ≤ promptsIn (halting.run {}).bench.history := by
  obtain ⟨sent, part, said, counted, -⟩ :=
    lines_follow_prompts load_twoLines (rfl : halting.config = _) {} List.prefix_rfl
  exact ⟨sent, part, said, counted⟩

namespace RunSetup

/-- The bench of this run when its session has started. -/
def greeted : Bench :=
  (halting.opening { events := [{ after := some 5, action := .emit "> ".toUTF8.toList }] }).start.1

/-- The same bench when the prompt has come. -/
def answered : Bench := (greeted.log true .info "Waiting for shell...").waitForOutput 20 true

/-- The same bench when the prompt was read. -/
def invited : Bench := (answered.recordMarked "> " { answered.session with pending := [] } 2).1

theorem runScript_halting :
    greeted.runScript halting.config.script true true =
      invited.runCommands halting.config.script true true [] [] := by
  have read : answered.recordMarked "> " { answered.session with pending := [] } 2 =
      (invited, .ok "> ") := Prod.ext rfl (by decide +kernel)
  have first : (greeted.log true .info "Waiting for shell...").readUntil
      halting.config.script.prompt halting.config.script.bootTimeout true =
        (invited, .ok ⟨.marker, "" ++ "> ", _⟩) :=
    Bench.readUntil_of_awaited (by decide) (by decide +kernel) (by decide +kernel)
      (by decide +kernel : answered.session.takeChunk = _) (by decide +kernel) read
  rw [Bench.runScript, first]
  rfl

end RunSetup

open RunSetup in
/-- With a configuration that is loaded, two lines are handed to the target for a single prompt. -/
theorem two_lines_for_one_prompt :
    ∃ loaded before, twoLines.load = .ok loaded ∧ halting.config = loaded.config ∧
      before <+: (halting.run {}).bench.history ∧ handedIn before = ["halt\nls\n"] ∧
      promptsIn before = 1 ∧ newlinesIn (handedIn before) = 2 := by
  have launched : halting.launched =
      .ok { events := [{ after := some 5, action := .emit "> ".toUTF8.toList }] } := rfl
  have started : (halting.opening
      { events := [{ after := some 5, action := .emit "> ".toUTF8.toList }] }).start =
        (greeted, .ok ()) := Prod.ext rfl (by decide +kernel)
  let spoken := (invited.runCommands halting.config.script true true [] []).1
  have settled : Bench.Evolves Bench.settleDeeds spoken (greeted.runStarted halting.config).1 :=
    Bench.evolves_runStarted_of_runScript runScript_halting
  have onward : Bench.Evolves Deed.all spoken (halting.run {}).bench :=
    (settled.mono (by decide)).trans (((Bench.evolves_neverLeave _).mono (by decide)).trans
      ((evolves_run launched started {}).mono (by decide)))
  obtain ⟨news, grown, -⟩ := onward.news
  exact ⟨_, spoken.history, load_twoLines, rfl, ⟨news, grown.symm⟩, by decide +kernel,
    by decide +kernel, by decide +kernel⟩

end ConsoleHarness
