import ConsoleHarness.Proofs.Config.Precedence
import ConsoleHarness.Proofs.Run.Incidents

/-! # A loaded configuration is safe to run

Every setting that the schema lets through, every variable of the environment and every default is
sound for its kind (`Kind.Sound`), so the strongest of them is.  A run with such a configuration has
a prompt to wait for, and something that it expects: it ends with a report, and does not pass
without output.
-/

namespace ConsoleHarness

/-- A text names a path from the root. -/
def Path.IsAbsolute (text : String) : Prop := text.toList.head? = some '/'

theorem Path.isAbsolute_text (path : Path) : Path.IsAbsolute path.text := by
  obtain ⟨segments⟩ := path
  cases segments with
  | nil => rfl
  | cons first rest => simp [Path.IsAbsolute, Path.text, String.join_cons]

/-- A configuration with which a run can neither get stuck on its prompt nor pass without output.
(A duration is a number of milliseconds, which is finite.) -/
structure Config.Safe (config : Config) : Prop where
  prompt : config.script.prompt ≠ ""
  shutdownCommand : config.script.shutdownCommand ≠ ""
  command : config.emulator.command ≠ ""
  scriptDurations :
    0 ≤ config.script.bootTimeout ∧ 0 ≤ config.script.promptTimeout ∧ 0 ≤ config.script.settle
  endDurations :
    0 ≤ config.timeouts.exit ∧ 0 ≤ config.timeouts.killGrace ∧ 0 ≤ config.timeouts.drain
  mirror : config.mirror = .raw ∨ config.mirror = .plain ∨ config.mirror = .off
  cwd : ∃ cwd, config.emulator.cwd = some cwd ∧ Path.IsAbsolute cwd
  artifactPath : Path.IsAbsolute config.artifactPath
  expecting : config.expectations ≠ []
  expectations : ∀ e ∈ config.expectations, e.label ≠ "" ∧ e.expected ≠ ""

/-! ## Sound settings -/

section Sound

variable {α : Type}

/-- What is asked of the settings of a kind. -/
def Kind.Sound : Kind α → α → Prop
  | .text, setting => setting ≠ ""
  | .duration, setting => 0 ≤ setting
  | .expectations, setting => setting ≠ [] ∧ ∀ e ∈ setting, e.label ≠ "" ∧ e.expected ≠ ""
  | .texts, _ | .mirror, _ => True

theorem filled_of_spelledBy {items : List Value} {expectations : List Expectation}
    (spelled : List.Forall₂ Expectation.SpelledBy items expectations) :
    ∀ e ∈ expectations, e.label ≠ "" ∧ e.expected ≠ "" := by
  induction spelled with
  | nil => simp
  | cons first _ ih =>
    obtain ⟨entries, -, label, expected⟩ := first
    exact List.forall_mem_cons.mpr ⟨⟨label.2, expected.2⟩, ih⟩

theorem Kind.Spells.sound {kind : Kind α} {value : Value} {setting : α}
    (spells : kind.Spells value setting) : kind.Sound setting := by
  cases kind with
  | text => exact spells.2
  | duration => exact spells.2
  | texts | mirror => trivial
  | expectations =>
    obtain ⟨items, -, filled, all⟩ := spells
    refine ⟨?_, filled_of_spelledBy all⟩
    rintro rfl
    exact filled (List.forall₂_nil_right_iff.mp all)

theorem Kind.Gives.sound {kind : Kind α} {value : Value} {setting : α}
    (gives : kind.Gives value (some setting)) : kind.Sound setting := by
  cases gives with
  | setting spells => exact spells.sound

theorem Field.SetBy.sound {env : Environment} {field : Field α} {setting : α}
    (set : field.SetBy env setting) : field.kind.Sound setting := by
  cases field with
  | command | kernelImage | artifactPath =>
    obtain ⟨value, -, -, filled⟩ := set
    exact filled
  | mirror => trivial
  | _ => contradiction

theorem Field.sound_fallback (field : Field α) : field.kind.Sound field.fallback := by
  cases field with
  | args | commands | mirror => trivial
  | expectations => exact ⟨by decide, by decide⟩
  | command | kernelImage | cwd | prompt | shutdownCommand | artifactPath =>
    change fallback _ ≠ ""
    decide
  | bootTimeout | promptTimeout | settle | exitTimeout | killGrace | drain =>
    change 0 ≤ fallback _
    decide

/-- A setting that the command line has no option for, and that is no path, is loaded as a layer or
the defaults have it, so it is sound. -/
theorem Sources.sound_load {s : Sources} {loaded : Loaded} (done : s.load = .ok loaded)
    (field : Field α) (own : field.isOwn = true) (unoptioned : field.inOptions s.overrides = none)
    (unseen : ∀ setting, field.seenFrom s.cwd setting = setting) {setting : α}
    (here : field.inConfig loaded.config = some setting) : field.kind.Sound setting := by
  obtain ⟨document, file, -, config, fields⟩ := load_spec done
  rw [config, inConfig_merge s file own, unoptioned, unseen, Option.some.injEq] at here
  rw [← here]
  cases environment : field.inLayer s.env.layer with
  | some setting => exact ((Field.inLayer_environment _ _ _).mp environment).sound
  | none =>
    have gives := (fields field).2
    cases found : field.inLayer file with
    | none => exact field.sound_fallback
    | some setting =>
      rw [found] at gives
      exact gives.sound

end Sound

/-! ## Safe configurations -/

section Loaded

variable {s : Sources} {loaded : Loaded}

/-- A path is loaded as it is seen from the working directory, whichever layer has it. -/
theorem Sources.isAbsolute_load (done : s.load = .ok loaded) {field : Field String}
    (own : field.isOwn = true)
    (seen : ∀ text, field.seenFrom s.cwd text = (s.cwd.resolve text).text) :
    ∃ path, field.inConfig loaded.config = some path ∧ Path.IsAbsolute path := by
  obtain ⟨document, file, -, config, -⟩ := load_spec done
  rw [config, inConfig_merge s file own, seen]
  exact ⟨_, rfl, Path.isAbsolute_text _⟩

theorem Sources.safe_load (done : s.load = .ok loaded) : loaded.config.Safe where
  prompt := sound_load done .prompt rfl rfl (fun _ => rfl) rfl
  shutdownCommand := sound_load done .shutdownCommand rfl rfl (fun _ => rfl) rfl
  command := sound_load done .command rfl rfl (fun _ => rfl) rfl
  scriptDurations :=
    ⟨sound_load done .bootTimeout rfl rfl (fun _ => rfl) rfl,
      sound_load done .promptTimeout rfl rfl (fun _ => rfl) rfl,
      sound_load done .settle rfl rfl (fun _ => rfl) rfl⟩
  endDurations :=
    ⟨sound_load done .exitTimeout rfl rfl (fun _ => rfl) rfl,
      sound_load done .killGrace rfl rfl (fun _ => rfl) rfl,
      sound_load done .drain rfl rfl (fun _ => rfl) rfl⟩
  mirror := by cases loaded.config.mirror <;> simp
  cwd := isAbsolute_load done (rfl : Field.cwd.isOwn = true) fun _ => rfl
  artifactPath := by
    obtain ⟨path, same, absolute⟩ :=
      isAbsolute_load done (rfl : Field.artifactPath.isOwn = true) fun _ => rfl
    rw [Option.some.inj same]
    exact absolute
  expecting := (sound_load done .expectations rfl rfl (fun _ => rfl) rfl).1
  expectations := (sound_load done .expectations rfl rfl (fun _ => rfl) rfl).2

/-- A transcript without output meets no expectation that asks for some. -/
theorem Verdict.exitCode_empty {expectations : List Expectation} (expecting : expectations ≠ [])
    (filled : ∀ e ∈ expectations, e.expected ≠ "") :
    (Verdict.ofTranscript "" expectations).exitCode = 1 := by
  obtain ⟨e, rest, rfl⟩ := List.exists_cons_of_ne_nil expecting
  have failed : (Verdict.ofTranscript "" (e :: rest)).exitCode ≠ 0 := by
    intro passed
    have occurs := Verdict.exitCode_ofTranscript.mp passed e List.mem_cons_self
    exact filled e List.mem_cons_self (by simpa using occurs)
  unfold Verdict.exitCode at failed ⊢
  split at failed
  · contradiction
  · rename_i bad
    rw [if_neg bad]

/-- A configuration that is loaded, from whatever file, environment and options and with whatever
reader of documents, is safe.  So every run with it that launches its target ends with a report,
without a fault, and if nothing was captured the report does not pass. -/
theorem loaded_config_is_safe (done : s.load = .ok loaded) :
    loaded.config.Safe ∧
      ∀ (setup : RunSetup) (files : Files), setup.config = loaded.config →
        (∀ fault, (setup.run files).report = .error fault →
          ∃ reason, setup.launched = .error reason ∧ fault = .launch reason) ∧
        ∀ report, (setup.run files).report = .ok report → report.transcript = "" →
          report.exitCode = 1 := by
  have safe := Sources.safe_load done
  refine ⟨safe, fun setup files same => ⟨fun fault failed => ?_, fun report reported silent => ?_⟩⟩
  · cases launched : setup.launched with
    | error reason =>
      refine ⟨reason, rfl, ?_⟩
      rw [RunSetup.run, launched] at failed
      exact (Except.error.inj failed).symm
    | ok target =>
      have filled : setup.config.script.prompt ≠ "" := by rw [same]; exact safe.prompt
      obtain ⟨report, reported⟩ := RunSetup.exists_report launched filled files
      rw [reported] at failed
      contradiction
  · obtain ⟨verdict, code⟩ := RunSetup.verdict_eq reported
    rw [code, verdict, silent, same]
    exact Verdict.exitCode_empty safe.expecting fun e member => (safe.expectations e member).2

end Loaded

/-! ## A run without output -/

/-- A document that expects a greeting, a variable that asks for the plain mirror, and an option
that names a kernel image. -/
def demanding : Sources where
  files := { tree := .folder [("work", .folder [("harness.yaml", .file "")])] }
  cwd := { segments := ["work"] }
  env := [(Environment.mirrorVariable, "plain")]
  overrides := { kernelImage := some "a.elf" }
  parse := fun _ => .ok (.mapping
    [("prompt", .text "$ "),
      ("expectations", .list [.mapping [("label", .text "Up"), ("expected", .text "Hi")]])])

namespace Demanding

/-- The configuration that these amount to. -/
def config : Config :=
  ({ emulator := some { kernelImage := some "a.elf" }, prompt := some "$ ", mirror := some .plain,
     expectations := some [⟨"Up", "Hi"⟩] } : Layer).resolve demanding.cwd

theorem load_eq : demanding.load = .ok ⟨config, []⟩ := by decide +kernel

/-- A target that exits without a word. -/
def mute : Target where
  events := [{ after := some 1, action := .exit { code := some 0 } }]

def setup : RunSetup where
  config := config
  launched := .ok mute

def started : Bench := (setup.opening mute).start.1

/-- The bench when the script has waited for its prompt. -/
def gone : Bench := (started.log true .info "Waiting for shell...").waitForOutput 10000 true

theorem exists_report : ∃ report, (setup.run {}).report = .ok report ∧ report.transcript = "" := by
  have begun : (setup.opening mute).start = (started, .ok ()) := Prod.ext rfl (by decide +kernel)
  have read : (started.log true .info "Waiting for shell...").readUntil "$ " 10000 true =
      (gone, .ok ⟨.closed, "", _⟩) :=
    Bench.readUntil_of_hungUp (by decide) (by decide +kernel) (by decide +kernel)
  obtain ⟨report, done, said, -⟩ :=
    RunSetup.exists_report_of_hungUp (rfl : setup.launched = .ok mute) begun read
      (by decide +kernel) (by decide +kernel : gone.session.exit = some { code := some 0 }) rfl {}
  exact ⟨report, done, said.trans (by decide +kernel)⟩

end Demanding

/-- A target that says nothing and exits with a code for success does not pass. -/
theorem loaded_config_is_safe_demanding :
    ∃ report, demanding.load = .ok ⟨Demanding.config, []⟩ ∧ Demanding.config.Safe ∧
      (Demanding.setup.run {}).report = .ok report ∧ report.transcript = "" ∧
      report.exitCode = 1 := by
  obtain ⟨safe, runs⟩ := loaded_config_is_safe Demanding.load_eq
  obtain ⟨report, done, silent⟩ := Demanding.exists_report
  exact ⟨report, Demanding.load_eq, safe, done, silent, (runs _ {} rfl).2 report done silent⟩

end ConsoleHarness
