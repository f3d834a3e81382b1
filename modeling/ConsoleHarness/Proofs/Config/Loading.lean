import ConsoleHarness.Proofs.Config.Precedence

/-! # Loading is all or nothing

A configuration file is refused, or its layer is used; `Rejects` and `Admits` say which, and why.
Nothing is told before that is settled.  So a listener who is told of a warning is told of all of
them, in order, and there is a configuration, which does not depend on who listens
(`loading_is_all_or_nothing`).
-/

namespace ConsoleHarness

/-! ## Warnings about the environment -/

/-- The environment is warned about if it names a mirror mode that does not exist, and only then. -/
inductive Environment.Warns (env : Environment) : List Issue → Prop
  | unset (silent : ∀ text, ¬ env.Sets mirrorVariable text) : Warns env []
  | known {text} {mode : MirrorMode} (sets : env.Sets mirrorVariable text)
      (names : Text.lower text = mode.text) : Warns env []
  | unknown {text} (sets : env.Sets mirrorVariable text)
      (foreign : ∀ mode : MirrorMode, Text.lower text ≠ mode.text) :
      Warns env [⟨.warning, ["BOGO_HARNESS_MIRROR"], .unknownMirrorMode (Text.lower text)⟩]

theorem Environment.warns_issues (env : Environment) : Warns env env.issues := by
  unfold issues mirror
  cases set : env.setting? mirrorVariable with
  | none =>
    refine .unset fun text sets => ?_
    rw [setting?_eq_some_iff.mpr sets] at set
    contradiction
  | some text =>
    have sets := setting?_eq_some_iff.mp set
    rw [Option.map_some]
    dsimp only
    split
    next mode named => exact .known sets (MirrorMode.text_of_ofText? named).symm
    next unnamed =>
      refine .unknown sets fun mode same => ?_
      rw [same, MirrorMode.ofText?_text] at unnamed
      contradiction

namespace Sources

variable {s : Sources} {issues warnings : List Issue} {layer : Layer}

/-! ## Which file -/

/-- The command line says a name for the configuration file. -/
def NamedByOption (s : Sources) (name : String) : Prop :=
  ∃ value, s.overrides.configPath = some value ∧ Text.trim value = name ∧ name ≠ ""

/-- A name is chosen: by the command line, or by the environment if that says nothing. -/
inductive Chooses (s : Sources) : String → Prop
  | option {name} (named : s.NamedByOption name) : Chooses s name
  | environment {name} (silent : ∀ other, ¬ s.NamedByOption other)
      (sets : s.env.Sets "BOGO_HARNESS_CONFIG" name) : Chooses s name

theorem named?_eq_some_iff {name : String} : s.named? = some name ↔ s.Chooses name := by
  have option (other : String) :
      Text.setting? s.overrides.configPath = some other ↔ s.NamedByOption other :=
    Text.setting?_eq_some_iff
  unfold named?
  cases given : Text.setting? s.overrides.configPath with
  | some text =>
    have named := (option text).mp given
    constructor
    · intro same
      obtain rfl := Option.some.inj same
      exact .option named
    · intro chooses
      cases chooses with
      | option other => exact given.symm.trans ((option name).mpr other)
      | environment silent sets => exact absurd named (silent text)
  | none =>
    have silent (other : String) : ¬ s.NamedByOption other := by
      rw [← option other, given]
      nofun
    constructor
    · intro set
      exact .environment silent (Environment.setting?_eq_some_iff.mp set)
    · intro chooses
      cases chooses with
      | option named => exact absurd named (silent name)
      | environment _ sets => exact Environment.setting?_eq_some_iff.mpr sets

theorem named?_eq_none_iff : s.named? = none ↔ ∀ name, ¬ s.Chooses name := by
  simp only [← named?_eq_some_iff, Option.eq_none_iff_forall_ne_some, ne_eq]

/-- The name of the file that is read. -/
inductive Names (s : Sources) : String → Prop
  | chosen {name} (chooses : s.Chooses name) : Names s name
  | default (unchosen : ∀ name, ¬ s.Chooses name) : Names s "harness.yaml"

theorem exists_names (s : Sources) : ∃ name, s.Names name := by
  by_cases chosen : ∃ name, s.Chooses name
  · obtain ⟨name, chooses⟩ := chosen
    exact ⟨name, .chosen chooses⟩
  · exact ⟨_, .default (not_exists.mp chosen)⟩

theorem path_of_names {name : String} (names : s.Names name) : s.path = s.cwd.resolve name := by
  unfold path
  cases names with
  | chosen chooses => rw [named?_eq_some_iff.mpr chooses, Option.getD_some]
  | default unchosen => rw [named?_eq_none_iff.mpr unchosen, Option.getD_none, defaultFile]

/-! ## Whether it can be used -/

/-- Some issues are the reason why the configuration file is refused. -/
inductive Rejects (s : Sources) : List Issue → Prop
  | unreadable {failure} (fails : s.files.read s.path = .error failure)
      (needed : failure.problem = .missing → ∃ name, s.Chooses name) :
      Rejects s [⟨.error, [], .unreadable failure⟩]
  | malformed {text fault} (holds : s.files.read s.path = .ok text)
      (fails : s.parse text = .error fault) : Rejects s [⟨.error, [], .malformed fault.text⟩]
  | invalid {text value} (holds : s.files.read s.path = .ok text) (parses : s.parse text = .ok value)
      (wrong : ∃ i ∈ (Schema.validate value s.strict).2, i.severity = .error) :
      Rejects s ((Schema.validate value s.strict).2.filter (·.severity = .error))

/-- A layer is what the configuration file says, with warnings about it. -/
inductive Admits (s : Sources) : Layer → List Issue → Prop
  | absent {failure} (fails : s.files.read s.path = .error failure)
      (missing : failure.problem = .missing) (unchosen : ∀ name, ¬ s.Chooses name) : Admits s {} []
  | valid {text value} (holds : s.files.read s.path = .ok text) (parses : s.parse text = .ok value)
      (harmless : ∀ i ∈ (Schema.validate value s.strict).2, i.severity = .warning) :
      Admits s (Schema.validate value s.strict).1 (Schema.validate value s.strict).2

theorem rejects_or_admits (s : Sources) :
    (∃ issues, s.Rejects issues) ∨ ∃ layer warnings, s.Admits layer warnings := by
  cases holds : s.files.read s.path with
  | error failure =>
    by_cases excused : failure.problem = .missing ∧ ∀ name, ¬ s.Chooses name
    · exact .inr ⟨_, _, .absent holds excused.1 excused.2⟩
    · refine .inl ⟨_, .unreadable holds fun missing => ?_⟩
      by_contra unchosen
      exact excused ⟨missing, not_exists.mp unchosen⟩
  | ok text =>
    cases parses : s.parse text with
    | error fault => exact .inl ⟨_, .malformed holds parses⟩
    | ok value =>
      by_cases wrong : ∃ i ∈ (Schema.validate value s.strict).2, i.severity = .error
      · exact .inl ⟨_, .invalid holds parses wrong⟩
      · refine .inr ⟨_, _, .valid holds parses fun i member => ?_⟩
        cases severity : i.severity with
        | error => exact absurd ⟨i, member, severity⟩ wrong
        | warning => rfl

theorem errors_ne_nil {found : List Issue} (wrong : ∃ i ∈ found, i.severity = .error) :
    found.filter (·.severity = .error) ≠ [] := by
  obtain ⟨i, member, severity⟩ := wrong
  exact List.ne_nil_of_mem (List.mem_filter.mpr ⟨member, decide_eq_true severity⟩)

theorem fileLayer_of_wrong {value : Value}
    (wrong : ∃ i ∈ (Schema.validate value s.strict).2, i.severity = .error) :
    s.fileLayer value = .error
      ⟨s.path.text, (Schema.validate value s.strict).2.filter (·.severity = .error)⟩ := by
  have some : ((Schema.validate value s.strict).2.filter Issue.isError).isEmpty = false :=
    List.isEmpty_eq_false_iff.mpr (errors_ne_nil wrong)
  unfold fileLayer
  dsimp only
  rw [some]
  rfl

theorem fileLayer_of_harmless {value : Value}
    (harmless : ∀ i ∈ (Schema.validate value s.strict).2, i.severity = .warning) :
    s.fileLayer value = .ok (Schema.validate value s.strict) := by
  have spared : ∀ i ∈ (Schema.validate value s.strict).2, i.isError = false := by
    intro i member
    rw [Issue.isError, harmless i member]
    rfl
  have none : (Schema.validate value s.strict).2.filter Issue.isError = [] := by
    rw [List.filter_eq_nil_iff]
    intro i member
    rw [spared i member]
    exact Bool.false_ne_true
  have all : (Schema.validate value s.strict).2.filter (!·.isError) =
      (Schema.validate value s.strict).2 := by
    rw [List.filter_eq_self]
    intro i member
    rw [spared i member]
    rfl
  unfold fileLayer
  dsimp only
  rw [none, all]
  rfl

theorem readFile_of_rejects (rejects : s.Rejects issues) :
    s.readFile = .error ⟨s.path.text, issues⟩ := by
  unfold readFile document
  cases rejects with
  | unreadable fails needed =>
    rw [fails]
    dsimp only
    rw [if_neg]
    · rfl
    · -- A missing file is passed over only if no name was chosen.
      intro excused
      rw [Bool.and_eq_true, decide_eq_true_iff, Option.isNone_iff_eq_none, named?_eq_none_iff]
        at excused
      obtain ⟨name, chooses⟩ := needed excused.1
      exact excused.2 name chooses
  | malformed holds fails =>
    rw [holds]
    dsimp only
    rw [fails]
    rfl
  | invalid holds parses wrong =>
    rw [holds]
    dsimp only
    rw [parses]
    exact fileLayer_of_wrong wrong

theorem readFile_of_admits (admits : s.Admits layer warnings) :
    s.readFile = .ok (layer, warnings) := by
  unfold readFile document
  cases admits with
  | absent fails missing unchosen =>
    rw [fails]
    dsimp only
    rw [if_pos]
    rw [Bool.and_eq_true, decide_eq_true_iff, Option.isNone_iff_eq_none, named?_eq_none_iff]
    exact ⟨missing, unchosen⟩
  | valid holds parses harmless =>
    rw [holds]
    dsimp only
    rw [parses]
    exact fileLayer_of_harmless harmless

theorem readFile_eq_error_iff {refusal : ConfigError} : s.readFile = .error refusal ↔
    refusal.source = s.path.text ∧ s.Rejects refusal.issues := by
  constructor
  · intro refused
    obtain ⟨issues, rejects⟩ | ⟨layer, warnings, admits⟩ := s.rejects_or_admits
    · obtain rfl := Except.error.inj (refused.symm.trans (readFile_of_rejects rejects))
      exact ⟨rfl, rejects⟩
    · rw [readFile_of_admits admits] at refused
      contradiction
  · rintro ⟨source, rejects⟩
    rw [readFile_of_rejects rejects, ← source]

theorem readFile_eq_ok_iff : s.readFile = .ok (layer, warnings) ↔ s.Admits layer warnings := by
  constructor
  · intro used
    obtain ⟨issues, rejects⟩ | ⟨other, told, admits⟩ := s.rejects_or_admits
    · rw [readFile_of_rejects rejects] at used
      contradiction
    · obtain ⟨rfl, rfl⟩ := Prod.mk.inj (Except.ok.inj (used.symm.trans (readFile_of_admits admits)))
      exact admits
  · exact readFile_of_admits

/-- A refusal gives reasons, all of them errors: those of the schema, or one with the whole file. -/
theorem Rejects.reasons (rejects : s.Rejects issues) :
    issues ≠ [] ∧ (∀ i ∈ issues, i.severity = .error) ∧
      ((∃ i, issues = [i] ∧ placeText i.place = "<root>") ∨
        ∃ text value, s.files.read s.path = .ok text ∧ s.parse text = .ok value ∧
          issues = (Schema.validate value s.strict).2.filter (·.severity = .error)) := by
  cases rejects with
  | unreadable fails needed => exact ⟨List.cons_ne_nil _ _, by simp, .inl ⟨_, rfl, rfl⟩⟩
  | malformed holds fails => exact ⟨List.cons_ne_nil _ _, by simp, .inl ⟨_, rfl, rfl⟩⟩
  | invalid holds parses wrong =>
    refine ⟨errors_ne_nil wrong, fun i kept => ?_, .inr ⟨_, _, holds, parses, rfl⟩⟩
    exact of_decide_eq_true (List.mem_filter.mp kept).2

/-- Only the configuration file matters among the files. -/
theorem readFile_withFiles {other : Files} (same : other.read s.path = s.files.read s.path) :
    { s with files := other }.readFile = s.readFile := by
  have there : { s with files := other }.document = s.document := by
    have holds : { s with files := other }.files.read { s with files := other }.path =
        s.files.read s.path := same
    unfold document
    rw [holds]
    rfl
  unfold readFile
  rw [there]
  rfl

end Sources

/-! ## What is told -/

namespace Listener

variable {σ : Type}

/-- What a listener is left with who was told some lines. -/
def heard (listener : Option (Listener σ)) (lines : List String) (state : σ) : σ :=
  match listener with
  | none => state
  | some tell => lines.foldl (fun state line => (tell line state).2) state

theorem tellAll_eq (listener : Option (Listener σ)) (lines : List String) (state : σ) :
    tellAll listener lines state = ((), heard listener lines state) := by
  unfold tellAll
  induction lines generalizing state with
  | nil => cases listener <;> rfl
  | cons line rest ih =>
    rw [List.forIn_cons]
    cases listener with
    | none => exact ih state
    | some tell => exact ih (tell line state).2

end Listener

namespace Sources

variable {s : Sources} {σ : Type} {listener : Option (Listener σ)} {before after : σ}

theorem loadTelling_eq (s : Sources) (listener : Option (Listener σ)) (before : σ) :
    s.loadTelling listener before =
      match s.readFile with
      | .error refusal => (.error refusal, before)
      | .ok (layer, warnings) => (.ok ((s.merge layer).resolve s.cwd),
          Listener.heard listener ((warnings ++ s.env.issues).map Issue.line) before) := by
  unfold loadTelling
  cases s.readFile with
  | error refusal => rfl
  | ok found =>
    obtain ⟨layer, warnings⟩ := found
    have told := Listener.tellAll_eq listener ((warnings ++ s.env.issues).map Issue.line) before
    show (_, (Listener.tellAll listener _ before).2) = _
    rw [told]

/-- What is loaded is what is loaded when nobody listens. -/
theorem fst_loadTelling (s : Sources) (listener : Option (Listener σ)) (before : σ) :
    (s.loadTelling listener before).1 = s.load.map Loaded.config := by
  rw [loadTelling_eq]
  unfold load
  cases s.readFile <;> rfl

theorem loadTelling_eq_error_iff {refusal : ConfigError} :
    s.loadTelling listener before = (.error refusal, after) ↔
      refusal.source = s.path.text ∧ s.Rejects refusal.issues ∧ after = before := by
  rw [loadTelling_eq, ← and_assoc, ← readFile_eq_error_iff]
  cases s.readFile with
  | error reason =>
    constructor
    · intro same
      obtain ⟨told, left⟩ := Prod.mk.inj same
      exact ⟨congrArg _ (Except.error.inj told), left.symm⟩
    · rintro ⟨told, rfl⟩
      cases told
      rfl
  | ok found =>
    refine iff_of_false (fun same => ?_) (fun same => nomatch same.1)
    nomatch (Prod.mk.inj same).1

theorem loadTelling_eq_ok_iff {config : Config} :
    s.loadTelling listener before = (.ok config, after) ↔
      ∃ layer warnings, s.Admits layer warnings ∧ config = (s.merge layer).resolve s.cwd ∧
        after = Listener.heard listener ((warnings ++ s.env.issues).map Issue.line) before := by
  rw [loadTelling_eq]
  simp only [← readFile_eq_ok_iff]
  cases s.readFile with
  | error reason =>
    refine iff_of_false (fun same => ?_) ?_
    · nomatch (Prod.mk.inj same).1
    · rintro ⟨_, _, found, -⟩
      nomatch found
  | ok found =>
    obtain ⟨layer, warnings⟩ := found
    constructor
    · intro same
      obtain ⟨config, after⟩ := Prod.mk.inj same
      exact ⟨layer, warnings, rfl, (Except.ok.inj config).symm, after.symm⟩
    · rintro ⟨_, _, found, rfl, rfl⟩
      cases found
      rfl

/-- One file is read, which the command line, the environment or the default names.  If it cannot be
used, the refusal says where it is and why, and the listener is left alone.  Otherwise the listener is
told of each warning once, those about the file in the order of the schema and then those about the
environment; and the configuration is the same for every listener, and for none. -/
theorem loading_is_all_or_nothing (s : Sources) :
    (∃ name, s.Names name) ∧ (∀ name, s.Names name → s.path = s.cwd.resolve name) ∧
    (∀ issues, s.Rejects issues → issues ≠ [] ∧ (∀ i ∈ issues, i.severity = .error) ∧
      ((∃ i, issues = [i] ∧ placeText i.place = "<root>") ∨
        ∃ text value, s.files.read s.path = .ok text ∧ s.parse text = .ok value ∧
          issues = (Schema.validate value s.strict).2.filter (·.severity = .error))) ∧
    s.env.Warns s.env.issues ∧
    ∀ (σ : Type) (listener : Option (Listener σ)) (before : σ),
      (∀ refusal after, s.loadTelling listener before = (.error refusal, after) ↔
        refusal.source = s.path.text ∧ s.Rejects refusal.issues ∧ after = before) ∧
      (∀ config after, s.loadTelling listener before = (.ok config, after) ↔
        ∃ layer warnings, s.Admits layer warnings ∧ config = (s.merge layer).resolve s.cwd ∧
          after = Listener.heard listener ((warnings ++ s.env.issues).map Issue.line) before) ∧
      (∀ (τ : Type) (other : Option (Listener τ)) (state : τ),
        (s.loadTelling other state).1 = (s.loadTelling listener before).1) ∧
      ∀ other : Files, other.read s.path = s.files.read s.path →
        { s with files := other }.loadTelling listener before = s.loadTelling listener before := by
  refine ⟨s.exists_names, fun name => path_of_names, fun issues => Rejects.reasons, s.env.warns_issues,
    fun σ listener before => ⟨fun refusal after => loadTelling_eq_error_iff,
      fun config after => loadTelling_eq_ok_iff, fun τ other state => ?_, fun other same => ?_⟩⟩
  · rw [fst_loadTelling, fst_loadTelling]
  · rw [loadTelling_eq, loadTelling_eq, readFile_withFiles same]
    rfl

end Sources

end ConsoleHarness
