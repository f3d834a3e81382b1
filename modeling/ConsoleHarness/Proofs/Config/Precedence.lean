import ConsoleHarness.Proofs.Config.Field

/-! # Which layer wins

A configuration takes each field from the strongest layer that has it: the command line, then the
environment, then the file, then the defaults.  Laying layers above one another does so field by
field (`Layer.inLayer_above`), and resolving fills in the defaults (`Layer.inConfig_resolve`).  Only
the arguments of the emulator come from two fields at once, theirs and the kernel image.
-/

namespace ConsoleHarness

/-! ## Layers above one another -/

namespace Layer

/-- The layer with its groups spelled out: one that is absent is one whose fields are all missing. -/
def filled (layer : Layer) : Layer :=
  { layer with emulator := some layer.emulatorPart, timeouts := some layer.timeoutPart }

theorem above_assoc (a b c : Layer) : (a.above b).above c = a.above (b.above c) := by
  simp only [above, emulatorPart, timeoutPart, Option.getD_some, orElse_assoc]

theorem empty_above (layer : Layer) : ({} : Layer).above layer = layer.filled := rfl

theorem above_empty (layer : Layer) : layer.above {} = layer.filled := by
  simp only [above, filled, emulatorPart, timeoutPart, Option.getD_none, Option.orElse_eq_orElse,
    Option.orElse_eq_or, Option.or_none]

/-- Layers do not tell an absent group from one whose fields are all missing. -/
theorem filled_above (a b : Layer) : a.filled.above b = a.above b ∧ a.above b.filled = a.above b :=
  ⟨rfl, rfl⟩

theorem inLayer_above {α : Type} (upper lower : Layer) (field : Field α) :
    field.inLayer (upper.above lower) = (field.inLayer upper <|> field.inLayer lower) := by
  cases field <;> rfl

end Layer

/-! ## What each layer has for a field -/

/-- A variable of the environment says a text: the text without the blanks around it, if anything is
left. -/
def Environment.Sets (env : Environment) (name text : String) : Prop :=
  ∃ value, List.lookup name env = some value ∧ Text.trim value = text ∧ text ≠ ""

theorem Text.setting?_eq_some_iff {given : Option String} {text : String} :
    setting? given = some text ↔ ∃ value, given = some value ∧ trim value = text ∧ text ≠ "" := by
  simp only [setting?, Option.filter_eq_some_iff, Option.map_eq_some_iff]
  constructor
  · rintro ⟨⟨value, found, trimmed⟩, filled⟩
    exact ⟨value, found, trimmed, by simpa using filled⟩
  · rintro ⟨value, found, trimmed, filled⟩
    exact ⟨⟨value, found, trimmed⟩, by simpa using filled⟩

theorem Environment.setting?_eq_some_iff {env : Environment} {name text : String} :
    env.setting? name = some text ↔ env.Sets name text :=
  Text.setting?_eq_some_iff

theorem MirrorMode.ofText?_text (mode : MirrorMode) : MirrorMode.ofText? mode.text = some mode := by
  cases mode <;> decide

theorem Environment.mirror_eq_some_iff {env : Environment} {mode : MirrorMode} :
    env.mirror.1 = some mode ↔
      ∃ name, env.Sets mirrorVariable name ∧ Text.lower name = mode.text := by
  simp only [← Environment.setting?_eq_some_iff, Environment.mirror]
  cases env.setting? mirrorVariable with
  | none => simp
  | some name =>
    simp only [Option.map_some, Option.some.injEq, exists_eq_left']
    constructor
    · intro found
      split at found
      · rename_i known
        rw [← Option.some.inj found]
        exact (MirrorMode.text_of_ofText? known).symm
      · contradiction
    · intro same
      rw [same, MirrorMode.ofText?_text]

namespace Field

variable {α : Type}

/-- Whether a field has a place of its own in a configuration. -/
def isOwn : Field α → Bool
  | .args | .kernelImage => false
  | _ => true

/-- What the command line has for a field. -/
def inOptions (options : Overrides) : Field α → Option α
  | .kernelImage => options.kernelImage
  | .artifactPath => options.artifactPath
  | .mirror => options.mirror
  | _ => none

/-- What the environment has for a field. -/
def SetBy (env : Environment) : Field α → α → Prop
  | .command, text => env.Sets Environment.commandVariable text
  | .kernelImage, text => env.Sets Environment.imageVariable text
  | .artifactPath, text => env.Sets Environment.artifactVariable text
  | .mirror, mode => ∃ name, env.Sets Environment.mirrorVariable name ∧ Text.lower name = mode.text
  | _, _ => False

/-- What a field is if no layer has it. -/
def fallback : Field α → α
  | .command => "qemu-system-riscv64"
  | .args => Emulator.argsFor Emulator.defaultImage
  | .kernelImage => Emulator.defaultImage
  | .cwd => "."
  | .prompt => "> "
  | .bootTimeout => 10000
  | .promptTimeout => 5000
  | .settle => 2000
  | .exitTimeout => 5000
  | .killGrace => 2000
  | .drain => 1000
  | .commands => ["hello"]
  | .shutdownCommand => "shutdown"
  | .artifactPath => "test_output.txt"
  | .mirror => .raw
  | .expectations => Expectation.defaults

/-- A setting as it stands in a configuration: paths are seen from the working directory. -/
def seenFrom (cwd : Path) : Field α → α → α
  | .cwd, text | .artifactPath, text => (cwd.resolve text).text
  | _, setting => setting

/-- What a configuration has for a field.  The arguments of the emulator are made of two fields. -/
def inConfig (config : Config) : Field α → Option α
  | .command => config.emulator.command
  | .args | .kernelImage => none
  | .cwd => config.emulator.cwd
  | .prompt => config.script.prompt
  | .bootTimeout => config.script.bootTimeout
  | .promptTimeout => config.script.promptTimeout
  | .settle => config.script.settle
  | .exitTimeout => config.timeouts.exit
  | .killGrace => config.timeouts.killGrace
  | .drain => config.timeouts.drain
  | .commands => config.script.commands
  | .shutdownCommand => config.script.shutdownCommand
  | .artifactPath => config.artifactPath
  | .mirror => config.mirror
  | .expectations => config.expectations

theorem inLayer_overrides (options : Overrides) (field : Field α) :
    field.inLayer options.layer = field.inOptions options := by
  cases field <;> rfl

theorem inLayer_environment (env : Environment) (field : Field α) (setting : α) :
    field.inLayer env.layer = some setting ↔ field.SetBy env setting := by
  cases field with
  | command | kernelImage | artifactPath => exact Environment.setting?_eq_some_iff
  | mirror => exact Environment.mirror_eq_some_iff
  | _ => simp [inLayer, SetBy, Environment.layer, Layer.emulatorPart, Layer.timeoutPart]

end Field

theorem Layer.inConfig_resolve {α : Type} (layer : Layer) (cwd : Path) {field : Field α}
    (own : field.isOwn = true) :
    field.inConfig (layer.resolve cwd) =
      some (field.seenFrom cwd ((field.inLayer layer).getD field.fallback)) := by
  cases field with
  | args | kernelImage => contradiction
  | _ => rfl

/-! ## What is loaded -/

namespace Sources

variable {s t : Sources} {loaded other : Loaded} {α : Type}

/-- What a file has for a field is read from its document, which has no errors; a file that is missing
has nothing. -/
theorem readFile_spec {file : Layer} {warnings : List Issue}
    (read : s.readFile = .ok (file, warnings)) :
    ∃ document, s.document = .ok document ∧ ∀ {α : Type} (field : Field α),
      field.inLayer file =
          (field.kind.read ((document.getD .null).find field.place) field.place).1 ∧
        field.kind.Gives ((document.getD .null).find field.place) (field.inLayer file) := by
  unfold readFile at read
  split at read
  · contradiction
  · rename_i missing
    obtain ⟨rfl, -⟩ := Prod.mk.inj (Except.ok.inj read)
    refine ⟨none, missing, fun field => ?_⟩
    have nothing : field.inLayer {} = none := by cases field <;> rfl
    rw [Option.getD_none, Value.find_null, Schema.read_null, nothing]
    exact ⟨rfl, .nothing⟩
  · rename_i value found
    unfold fileLayer at read
    dsimp only at read
    split at read
    · rename_i errorless
      obtain ⟨rfl, -⟩ := Prod.mk.inj (Except.ok.inj read)
      have clean : Schema.Clean (Schema.validate value s.strict).2 := by
        simpa [Schema.Clean] using errorless
      exact ⟨some value, found, fun field =>
        ⟨(Schema.validate_field value s.strict field).1, Schema.gives_validate clean field⟩⟩
    · contradiction

/-- A configuration that is loaded is what all layers as one amount to. -/
theorem load_spec (done : s.load = .ok loaded) :
    ∃ document file, s.document = .ok document ∧
      loaded.config = (s.merge file).resolve s.cwd ∧ ∀ {α : Type} (field : Field α),
        field.inLayer file =
            (field.kind.read ((document.getD .null).find field.place) field.place).1 ∧
          field.kind.Gives ((document.getD .null).find field.place) (field.inLayer file) := by
  unfold load at done
  split at done
  · contradiction
  · rename_i file warnings read
    obtain ⟨document, found, fields⟩ := readFile_spec read
    exact ⟨document, file, found, by rw [← Except.ok.inj done], fields⟩

/-- All layers as one have what the strongest of them has, but for the arguments. -/
theorem inLayer_merge (s : Sources) (file : Layer) {field : Field α} (own : field.isOwn = true) :
    field.inLayer (s.merge file) =
      (field.inOptions s.overrides <|> field.inLayer s.env.layer <|> field.inLayer file) := by
  have whole : field.inLayer (s.overrides.layer.above (s.env.layer.above file)) =
      (field.inOptions s.overrides <|> field.inLayer s.env.layer <|> field.inLayer file) := by
    rw [Layer.inLayer_above, Layer.inLayer_above, Field.inLayer_overrides]
  rw [← whole]
  unfold merge
  dsimp only
  split
  · split
    · rfl
    · cases field with
      | args | kernelImage => contradiction
      | _ => rfl
  · rfl

/-- What they amount to has the setting of the strongest layer, or else the default. -/
theorem inConfig_merge (s : Sources) (file : Layer) {field : Field α} (own : field.isOwn = true) :
    field.inConfig ((s.merge file).resolve s.cwd) = some (field.seenFrom s.cwd
      ((field.inOptions s.overrides <|> field.inLayer s.env.layer <|> field.inLayer file).getD
        field.fallback)) := by
  rw [Layer.inConfig_resolve _ _ own, inLayer_merge s file own]

/-- The arguments are those of the file, with a kernel image from elsewhere put in, or those for a
kernel image. -/
theorem args_merge (s : Sources) (file : Layer) (cwd : Path) :
    ((s.merge file).resolve cwd).emulator.args =
      match file.emulatorPart.args, s.image? with
      | some args, some image => if image.isEmpty then args else Emulator.withImage image args
      | some args, none => args
      | none, image? => Emulator.argsFor
          ((image? <|> file.emulatorPart.kernelImage).getD Emulator.defaultImage) := by
  have args : (s.overrides.layer.above (s.env.layer.above file)).emulatorPart.args =
      file.emulatorPart.args := rfl
  have image : (s.overrides.layer.above (s.env.layer.above file)).emulatorPart.kernelImage =
      (s.image? <|> file.emulatorPart.kernelImage) := orElse_assoc _ _ _
  unfold merge
  dsimp only
  rw [args]
  cases given : file.emulatorPart.args with
  | none =>
    dsimp only [Layer.resolve]
    rw [args, given, image]
    rfl
  | some texts =>
    cases s.image? with
    | none =>
      dsimp only [Layer.resolve]
      rw [args, given]
      rfl
    | some name =>
      dsimp only
      split
      · dsimp only [Layer.resolve]
        rw [args, given]
        rfl
      · rfl

/-- Two sources, and the documents of their files, have the same for a field. -/
structure Agree (s t : Sources) (document other : Option Value) (field : Field α) : Prop where
  options : field.inOptions s.overrides = field.inOptions t.overrides
  environment : ∀ setting, field.SetBy s.env setting ↔ field.SetBy t.env setting
  file : (document.getD .null).find field.place = (other.getD .null).find field.place

theorem Agree.inLayer_environment {document other : Option Value} {field : Field α}
    (agree : Agree s t document other field) :
    field.inLayer s.env.layer = field.inLayer t.env.layer := by
  ext setting
  rw [Field.inLayer_environment, Field.inLayer_environment]
  exact agree.environment setting

/-- Where a configuration is loaded, each field that has a place of its own comes from the strongest
layer that has it: the command line, the environment, the file, or the defaults.  It depends on no
other field, and neither do the arguments of the emulator on a field other than theirs and the
kernel image.  Laying layers above one another is associative, and the empty layer is its unit, an
absent group being one whose fields are all missing. -/
theorem strongest_layer_wins (done : s.load = .ok loaded) :
    ∃ document, s.document = .ok document ∧
      (∀ (α : Type) (field : Field α), field.isOwn = true → ∃ fromEnvironment fromFile,
        (∀ setting, fromEnvironment = some setting ↔ field.SetBy s.env setting) ∧
        field.kind.Gives ((document.getD .null).find field.place) fromFile ∧
        field.inConfig loaded.config = some (field.seenFrom s.cwd
          ((field.inOptions s.overrides <|> fromEnvironment <|> fromFile).getD field.fallback))) ∧
      (∀ (t : Sources) (other : Loaded) (otherDocument : Option Value),
        t.load = .ok other → t.document = .ok otherDocument → t.cwd = s.cwd →
        (∀ (α : Type) (field : Field α), field.isOwn = true →
          Agree s t document otherDocument field →
            field.inConfig other.config = field.inConfig loaded.config) ∧
        (Agree s t document otherDocument .args → Agree s t document otherDocument .kernelImage →
          other.config.emulator.args = loaded.config.emulator.args)) ∧
      (∀ a b c : Layer, (a.above b).above c = a.above (b.above c)) ∧
      (∀ a : Layer, ({} : Layer).above a = a.filled ∧ a.above {} = a.filled) ∧
      ∀ a b : Layer, a.filled.above b = a.above b ∧ a.above b.filled = a.above b := by
  obtain ⟨document, file, found, config, fields⟩ := load_spec done
  refine ⟨document, found, fun α field own => ?_, ?_, Layer.above_assoc,
    fun a => ⟨Layer.empty_above a, Layer.above_empty a⟩, Layer.filled_above⟩
  · refine ⟨field.inLayer s.env.layer, field.inLayer file, Field.inLayer_environment s.env field,
      (fields field).2, ?_⟩
    rw [config, inConfig_merge s file own]
  · intro t other otherDocument otherDone otherFound cwd
    obtain ⟨d, otherFile, same, otherConfig, otherFields⟩ := load_spec otherDone
    obtain rfl := Except.ok.inj (same.symm.trans otherFound)
    -- Fields on which the documents agree are the same in both files.
    have files {β : Type} {field : Field β} (agree : Agree s t document d field) :
        field.inLayer otherFile = field.inLayer file := by
      rw [(fields field).1, (otherFields field).1, agree.file]
    refine ⟨fun α field own agree => ?_, fun args image => ?_⟩
    · rw [config, otherConfig, inConfig_merge s file own, inConfig_merge t otherFile own,
        files agree, ← agree.options, ← agree.inLayer_environment, cwd]
    · have images : t.image? = s.image? := by
        have option : s.overrides.kernelImage = t.overrides.kernelImage := image.options
        have environment : s.env.layer.emulatorPart.kernelImage =
            t.env.layer.emulatorPart.kernelImage := image.inLayer_environment
        rw [image?, image?, option, environment]
      have argsToo : otherFile.emulatorPart.args = file.emulatorPart.args := files args
      have imageToo : otherFile.emulatorPart.kernelImage = file.emulatorPart.kernelImage :=
        files image
      rw [config, otherConfig, args_merge, args_merge, argsToo, imageToo, images]

/-- A file, the environment and the command line, each with a name for the artifact. -/
def layered : Sources where
  files := { tree := .folder [("work", .folder [("harness.yaml", .file "")])] }
  cwd := { segments := ["work"] }
  env := [(Environment.artifactVariable, " environment.txt ")]
  overrides := { artifactPath := some "out/option.txt" }
  parse := fun _ => .ok (.mapping
    [("artifactPath", .text "file.txt"), ("timeouts", .mapping [("bootMs", .number (.finite 250))])])

/-- The option wins; what only the file has comes from there. -/
theorem strongest_layer_wins_layered :
    ∃ loaded, layered.load = .ok loaded ∧ loaded.config.artifactPath = "/work/out/option.txt" ∧
      loaded.config.script.bootTimeout = 250 := by
  have succeeds : layered.load.isOk = true := by decide +kernel
  cases done : layered.load with
  | error refusal =>
    rw [done] at succeeds
    contradiction
  | ok loaded =>
    obtain ⟨document, found, fields, -⟩ := strongest_layer_wins done
    obtain ⟨_, _, -, -, artifact⟩ := fields _ .artifactPath rfl
    obtain ⟨fromEnvironment, fromFile, sets, gives, boot⟩ := fields _ .bootTimeout rfl
    have path : (layered.cwd.resolve "out/option.txt").text = "/work/out/option.txt" := by
      decide +kernel
    refine ⟨loaded, rfl, (Option.some.inj artifact).trans path, ?_⟩
    -- The environment has no say here, and the document spells the duration.
    obtain rfl : fromEnvironment = none :=
      Option.eq_none_iff_forall_not_mem.mpr fun setting set => (sets setting).mp set
    have there : layered.document = .ok (some (.mapping [("artifactPath", .text "file.txt"),
        ("timeouts", .mapping [("bootMs", .number (.finite 250))])])) := rfl
    obtain rfl := Except.ok.inj (found.symm.trans there)
    have spelled : Kind.duration.Gives (.number (.finite 250)) fromFile := gives
    cases spelled with
    | setting spells =>
      obtain ⟨same, -⟩ := spells
      cases same
      exact Option.some.inj boot

end Sources

end ConsoleHarness
