import ConsoleHarness.Proofs.Config.Offence
import ConsoleHarness.Proofs.Config.Safe

/-! # Which documents are accepted, and as what

A document is accepted if each of its mappings is one or missing, and each setting is spelled or
missing (`Schema.Accepts`).  The schema finds no error in exactly these (`Schema.clean_iff_accepts`),
and gives the layer that the document spells (`Schema.Projects`).  The document of that layer
(`Layer.document`) is read as the same layer again, without any issue.
-/

namespace ConsoleHarness

/-- Whether a value can stand where a mapping is asked for. -/
def Value.MappingOrNull (value : Value) : Prop := value = .null ∨ ∃ entries, value = .mapping entries

theorem Value.not_mappingOrNull {value : Value} :
    ¬ value.MappingOrNull ↔ value ≠ .null ∧ ∀ entries, value ≠ .mapping entries := by
  rw [MappingOrNull, not_or, not_exists]

/-- Where a value is a mapping, its keys are among the known ones. -/
def Value.HasOnly (value : Value) (known : List String) : Prop :=
  ∀ entries, value = .mapping entries → ∀ key ∈ entries.map Prod.fst, key ∈ known

/-! ## A setting that is spelled -/

section Spelling

variable {α : Type} {kind : Kind α} {value : Value}

theorem Expectation.SpelledBy.unique {e other : Expectation} (spelled : e.SpelledBy value)
    (again : other.SpelledBy value) : e = other := by
  obtain ⟨entries, rfl, ⟨label, -⟩, expected, -⟩ := spelled
  obtain ⟨_, same, ⟨otherLabel, -⟩, otherExpected, -⟩ := again
  cases same
  cases e
  cases other
  cases label.symm.trans otherLabel
  cases expected.symm.trans otherExpected
  rfl

theorem Kind.Spells.unique {setting other : α} (spells : kind.Spells value setting)
    (again : kind.Spells value other) : setting = other := by
  cases kind with
  | text =>
    cases spells.1.symm.trans again.1
    rfl
  | texts =>
    have same := Value.list.inj (spells.symm.trans again)
    exact List.map_injective_iff.mpr (fun _ _ => Value.text.inj) same
  | duration =>
    cases spells.1.symm.trans again.1
    rfl
  | mirror =>
    have same : setting.text = other.text := Value.text.inj (spells.symm.trans again)
    have found := MirrorMode.ofText?_text setting
    rw [same, MirrorMode.ofText?_text] at found
    exact (Option.some.inj found).symm
  | expectations =>
    obtain ⟨items, rfl, -, each⟩ := spells
    obtain ⟨_, same, -, otherEach⟩ := again
    cases same
    induction each generalizing other with
    | nil =>
      cases otherEach
      rfl
    | cons first _ ih =>
      cases otherEach with
      | cons otherFirst rest => rw [first.unique otherFirst, ih rest]

theorem Kind.Spells.ne_null {setting : α} (spells : kind.Spells value setting) :
    value ≠ .null := by
  rintro rfl
  cases kind with
  | text | duration => cases spells.1
  | texts | mirror => cases spells
  | expectations =>
    obtain ⟨items, same, -⟩ := spells
    cases same

theorem Kind.Gives.unique {found other : Option α} (gives : kind.Gives value found)
    (again : kind.Gives value other) : found = other := by
  cases gives with
  | nothing =>
    cases again with
    | nothing => rfl
    | setting spells => exact absurd rfl spells.ne_null
  | setting spells =>
    cases again with
    | nothing => exact absurd rfl spells.ne_null
    | setting spellsToo => rw [spells.unique spellsToo]

/-! ## A setting that is spelled has no fault -/

theorem Value.not_textFault {text : String} {problem : Problem} (filled : text ≠ "") :
    ¬ (Value.text text).TextFault problem := by
  intro fault
  cases fault with
  | empty => contradiction
  | foreign there other => exact other text rfl

theorem Expectation.SpelledBy.unfaulted {e : Expectation} {rest : List String} {problem : Problem}
    (spelled : e.SpelledBy value) : ¬ value.ExpectationFault rest problem := by
  obtain ⟨entries, rfl, label, expected⟩ := spelled
  have texts {key : String} (asked : key ∈ ["label", "expected"]) :
      ∃ text, Value.lookup key entries = .text text ∧ text ≠ "" := by
    simp only [List.mem_cons, List.not_mem_nil, or_false] at asked
    rcases asked with rfl | rfl
    · exact ⟨_, label⟩
    · exact ⟨_, expected⟩
  intro fault
  cases fault with
  | notMapping other => exact other entries rfl
  | missing asked gone =>
    obtain ⟨text, here, -⟩ := texts asked
    cases gone.symm.trans here
  | notText asked fault =>
    obtain ⟨text, here, filled⟩ := texts asked
    rw [here] at fault
    exact Value.not_textFault filled fault

theorem Kind.Spells.unfaulted {setting : α} {rest : List String} {problem : Problem}
    (spells : kind.Spells value setting) : ¬ kind.Fault value rest problem := by
  intro fault
  cases kind with
  | text =>
    obtain ⟨rfl, filled⟩ := spells
    exact Value.not_textFault filled fault.2
  | texts =>
    cases fault with
    | notList there other => exact other _ spells
    | notText here other =>
      cases spells
      obtain ⟨text, -, same⟩ := List.mem_map.mp (List.mem_of_getElem? here)
      exact other text same.symm
  | duration =>
    cases fault.2 with
    | foreign there other => exact other _ spells.2 spells.1
  | mirror =>
    cases spells
    cases fault.2 with
    | notText fault =>
      refine Value.not_textFault ?_ fault
      cases setting <;> decide
    | notMode filled other => exact other setting rfl
  | expectations =>
    obtain ⟨items, rfl, filled, each⟩ := spells
    cases fault with
    | notList there other => exact other items rfl
    | empty => contradiction
    | item here fault =>
      obtain ⟨bound, rfl⟩ := List.getElem?_eq_some_iff.mp here
      have spelled := each.get bound (each.length_eq ▸ bound)
      exact spelled.unfaulted fault

/-- A value gives something where a setting is asked for if and only if nothing is wrong with it. -/
theorem Schema.gives_iff : (∃ found, kind.Gives value found) ↔
    ∀ rest problem, ¬ kind.Fault value rest problem := by
  constructor
  · rintro ⟨found, gives⟩ rest problem
    cases gives with
    | nothing => exact fun fault => ne_null_of_fault fault rfl
    | setting spells => exact spells.unfaulted
  · intro sound
    have clean : Clean (kind.read value []).2 := by
      intro issue told
      obtain ⟨rest, problem, fault, -⟩ := (mem_read kind).mp told
      exact absurd fault (sound rest problem)
    exact ⟨_, gives_read kind clean⟩

end Spelling

/-! ## The grammar -/

namespace Schema

variable {value : Value} {strict : Bool}

/-- The documents that are accepted. -/
structure Accepts (value : Value) : Prop where
  whole : value.MappingOrNull
  groups : ∀ key ∈ groupKeys, (value.find [key]).MappingOrNull
  settings : ∀ {α : Type} (field : Field α),
    ∃ found, field.kind.Gives (value.find field.place) found

/-- The mappings of a document have known keys only. -/
def Known (value : Value) : Prop :=
  ∀ place keys, (place, keys) ∈ mappings → (value.find place).HasOnly keys

/-- A layer has what a document spells: its groups where these are, and its settings. -/
structure Projects (value : Value) (layer : Layer) : Prop where
  emulator : layer.emulator.isSome ↔ value.find ["emulator"] ≠ .null
  timeouts : layer.timeouts.isSome ↔ value.find ["timeouts"] ≠ .null
  settings : ∀ {α : Type} (field : Field α),
    field.kind.Gives (value.find field.place) (field.inLayer layer)

/-- A document is accepted if nothing but unknown keys is wrong with it. -/
theorem accepts_iff : Accepts value ↔
    ∀ place problem, Offence value place problem → problem = .unknownKey := by
  constructor
  · intro accepts place problem offence
    cases offence with
    | unknownKey => rfl
    | notConfig there other => exact absurd accepts.whole (Value.not_mappingOrNull.mpr ⟨there, other⟩)
    | notMapping group there other =>
      exact absurd (accepts.groups _ group) (Value.not_mappingOrNull.mpr ⟨there, other⟩)
    | setting field fault => exact absurd fault (gives_iff.mp (accepts.settings field) _ _)
  · intro sound
    refine ⟨?_, fun key group => ?_, fun field => gives_iff.mpr fun rest problem fault => ?_⟩
    · by_contra other
      obtain ⟨there, other⟩ := Value.not_mappingOrNull.mp other
      cases sound _ _ (.notConfig there other)
    · by_contra other
      obtain ⟨there, other⟩ := Value.not_mappingOrNull.mp other
      cases sound _ _ (.notMapping group there other)
    · exact fault.ne_unknownKey (sound _ _ (.setting field fault))

theorem known_iff : Known value ↔ ∀ place, ¬ Offence value place .unknownKey := by
  constructor
  · intro known place offence
    generalize same : Problem.unknownKey = problem at offence
    cases offence with
    | unknownKey among here present unknown =>
      exact unknown (known _ _ among _ here _ present)
    | notConfig | notMapping => cases same
    | setting field fault => exact fault.ne_unknownKey same.symm
  · intro sound place keys among entries here key present
    by_contra unknown
    exact sound _ (.unknownKey among here present unknown)

/-- Unless it is strict, the schema finds no error in exactly the documents that are accepted. -/
theorem clean_iff_accepts : Clean (validate value false).2 ↔ Accepts value := by
  rw [accepts_iff]
  constructor
  · intro clean place problem offence
    have mild := clean _ (told_of_offence false offence)
    cases problem with
    | unknownKey => rfl
    | _ => cases mild
  · intro sound issue told
    obtain ⟨offence, severe⟩ := mem_validate.mp told
    rw [sound _ _ offence] at severe
    rw [Issue.isError, severe]
    rfl

/-! ## What is accepted is projected -/

theorem readPart_layer {β : Type} (value : Value) (place : List String)
    (read other : Entries → β × List Issue) (same : ∀ entries, (read entries).1 = (other entries).1) :
    (readPart value place read).1 = (readPart value place other).1 := by
  cases value with
  | mapping entries => exact congrArg some (same entries)
  | _ => rfl

/-- What the schema reads does not depend on how unknown keys are taken. -/
theorem validate_layer (value : Value) (strict other : Bool) :
    (validate value strict).1 = (validate value other).1 := by
  cases value with
  | mapping entries =>
    have emulator := readPart_layer (Value.lookup "emulator" entries) ["emulator"]
      (readEmulator · strict) (readEmulator · other) fun _ => rfl
    have timeouts := readPart_layer (Value.lookup "timeouts" entries) ["timeouts"]
      (readTimeouts · strict) (readTimeouts · other) fun _ => rfl
    simp only [validate, readRoot, emulator, timeouts]
  | _ => rfl

theorem isSome_readPart {β : Type} {place : List String} (read : Entries → β × List Issue)
    (ok : value.MappingOrNull) : (readPart value place read).1.isSome ↔ value ≠ .null := by
  obtain rfl | ⟨entries, rfl⟩ := ok <;> simp [readPart, readMapping]

theorem projects_validate (accepts : Accepts value) : Projects value (validate value false).1 := by
  refine ⟨?_, ?_, gives_validate (clean_iff_accepts.mpr accepts)⟩
  all_goals
    obtain rfl | ⟨entries, rfl⟩ := accepts.whole
    · simp [validate]
  · exact isSome_readPart (readEmulator · false) (accepts.groups "emulator" (by decide))
  · exact isSome_readPart (readTimeouts · false) (accepts.groups "timeouts" (by decide))

theorem eq_of_isSome_iff {β : Type} {part other : Option β} {empty : β}
    (there : part.isSome ↔ other.isSome) (same : part.getD empty = other.getD empty) :
    part = other := by
  cases part <;> cases other <;> simp_all

/-- A document has at most one layer that has what it spells. -/
theorem Projects.unique {layer other : Layer} (projects : Projects value layer)
    (again : Projects value other) : layer = other := by
  have same {α : Type} (field : Field α) : field.inLayer layer = field.inLayer other :=
    (projects.settings field).unique (again.settings field)
  have emulator : layer.emulatorPart = other.emulatorPart := by
    change EmulatorLayer.mk (Field.command.inLayer layer) (Field.args.inLayer layer)
      (Field.kernelImage.inLayer layer) (Field.cwd.inLayer layer) = other.emulatorPart
    rw [same, same, same, same]
    rfl
  have timeouts : layer.timeoutPart = other.timeoutPart := by
    change TimeoutLayer.mk (Field.bootTimeout.inLayer layer) (Field.promptTimeout.inLayer layer)
      (Field.settle.inLayer layer) (Field.exitTimeout.inLayer layer)
      (Field.killGrace.inLayer layer) (Field.drain.inLayer layer) = other.timeoutPart
    rw [same, same, same, same, same, same]
    rfl
  have emulators := eq_of_isSome_iff (projects.emulator.trans again.emulator.symm) emulator
  have durations := eq_of_isSome_iff (projects.timeouts.trans again.timeouts.symm) timeouts
  change Layer.mk layer.emulator (Field.prompt.inLayer layer) layer.timeouts
    (Field.commands.inLayer layer) (Field.shutdownCommand.inLayer layer)
    (Field.artifactPath.inLayer layer) (Field.mirror.inLayer layer)
    (Field.expectations.inLayer layer) = other
  rw [emulators, durations, same, same, same, same, same, same]
  rfl

end Schema

/-! ## The document of a layer -/

section Document

variable {α : Type} {kind : Kind α}

/-- The value that spells a setting; `null` if there is none. -/
def Kind.spell {α : Type} : Kind α → Option α → Value
  | _, none => .null
  | .text, some setting => .text setting
  | .texts, some setting => .list (setting.map .text)
  | .duration, some setting => .number (.finite setting)
  | .mirror, some setting => .text setting.text
  | .expectations, some setting => .list
    (setting.map fun e => .mapping [("label", .text e.label), ("expected", .text e.expected)])

theorem Kind.Sound.spells {setting : α} (sound : kind.Sound setting) :
    kind.Spells (kind.spell (some setting)) setting := by
  cases kind with
  | text => exact ⟨rfl, sound⟩
  | texts => rfl
  | duration => exact ⟨rfl, sound⟩
  | mirror => rfl
  | expectations =>
    obtain ⟨some, filled⟩ := sound
    refine ⟨_, rfl, by simpa using some, ?_⟩
    rw [List.forall₂_map_left_iff, List.forall₂_same]
    intro e member
    obtain ⟨label, expected⟩ := filled e member
    exact ⟨_, rfl, ⟨by simp, label⟩, by simp, expected⟩

/-- What a value gives can be spelled again. -/
theorem Kind.Gives.again {value : Value} {found : Option α} (gives : kind.Gives value found) :
    kind.Gives (kind.spell found) found := by
  cases gives with
  | nothing => exact .nothing
  | setting spells => exact .setting spells.sound.spells

/-- A key with a value, if there is one. -/
def Value.optional (key : String) (value? : Option Value) : List (String × Value) :=
  value?.toList.map (key, ·)

def EmulatorLayer.document (part : EmulatorLayer) : Value := .mapping
  [("command", Kind.text.spell part.command), ("args", Kind.texts.spell part.args),
    ("kernelImage", Kind.text.spell part.kernelImage), ("cwd", Kind.text.spell part.cwd)]

def TimeoutLayer.document (part : TimeoutLayer) : Value := .mapping
  [("bootMs", Kind.duration.spell part.boot), ("promptMs", Kind.duration.spell part.prompt),
    ("settleMs", Kind.duration.spell part.settle), ("exitMs", Kind.duration.spell part.exit),
    ("killGraceMs", Kind.duration.spell part.killGrace),
    ("drainMs", Kind.duration.spell part.drain)]

/-- The layer as a document: its groups and the mirror mode are there only if the layer has them,
the other keys are always there, with `null` for what is missing. -/
def Layer.document (layer : Layer) : Value := .mapping
  (Value.optional "emulator" (layer.emulator.map EmulatorLayer.document) ++
    ("prompt", Kind.text.spell layer.prompt) ::
    (Value.optional "timeouts" (layer.timeouts.map TimeoutLayer.document) ++
      ("commands", Kind.texts.spell layer.commands) ::
      ("shutdownCommand", Kind.text.spell layer.shutdownCommand) ::
      ("artifactPath", Kind.text.spell layer.artifactPath) ::
      (Value.optional "mirror" (layer.mirror.map fun mode => .text mode.text) ++
        [("expectations", Kind.expectations.spell layer.expectations)])))

@[simp] theorem Value.lookup_optional (key name : String) (value? : Option Value)
    (rest : List (String × Value)) :
    Value.lookup key (Value.optional name value? ++ rest) =
      if key = name then value?.getD (Value.lookup key rest) else Value.lookup key rest := by
  cases value? <;> simp [Value.optional]

theorem Layer.find_emulator (layer : Layer) :
    layer.document.find ["emulator"] = (layer.emulator.map EmulatorLayer.document).getD .null := by
  simp [Layer.document, Value.find]

theorem Layer.find_timeouts (layer : Layer) :
    layer.document.find ["timeouts"] = (layer.timeouts.map TimeoutLayer.document).getD .null := by
  simp [Layer.document, Value.find]

/-- The document of a layer spells each of its settings. -/
theorem Layer.find_document (layer : Layer) (field : Field α) :
    layer.document.find field.place = field.kind.spell (field.inLayer layer) := by
  have emulator (key : String) : layer.document.find ["emulator", key] =
      ((layer.emulator.map EmulatorLayer.document).getD .null).find [key] := by
    rw [← layer.find_emulator, ← Schema.find_append]
    rfl
  have timeouts (key : String) : layer.document.find ["timeouts", key] =
      ((layer.timeouts.map TimeoutLayer.document).getD .null).find [key] := by
    rw [← layer.find_timeouts, ← Schema.find_append]
    rfl
  cases field with
  | command | args | kernelImage | cwd =>
    refine (emulator _).trans ?_
    cases part : layer.emulator <;>
      simp [Field.inLayer, Layer.emulatorPart, part, EmulatorLayer.document, Value.find, Kind.spell,
        Field.kind]
  | bootTimeout | promptTimeout | settle | exitTimeout | killGrace | drain =>
    refine (timeouts _).trans ?_
    cases part : layer.timeouts <;>
      simp [Field.inLayer, Layer.timeoutPart, part, TimeoutLayer.document, Value.find, Kind.spell,
        Field.kind]
  | mirror =>
    cases mode : layer.mirror <;>
      simp [Layer.document, Field.place, Field.inLayer, Field.kind, Value.find, mode, Kind.spell]
  | _ => simp [Layer.document, Field.place, Field.inLayer, Field.kind, Value.find]

end Document

namespace Schema

variable {value : Value} {strict : Bool}

theorem hasOnly_mapping {entries : Entries} {known : List String}
    (each : ∀ entry ∈ entries, entry.1 ∈ known) : (Value.mapping entries).HasOnly known := by
  rintro _ ⟨⟩ key present
  obtain ⟨entry, member, rfl⟩ := List.mem_map.mp present
  exact each entry member

theorem optional_known {name : String} {known : List String} (value? : Option Value)
    (named : name ∈ known) : ∀ entry ∈ Value.optional name value?, entry.1 ∈ known := by
  intro entry member
  obtain ⟨value, -, rfl⟩ := List.mem_map.mp member
  exact named

theorem known_document (layer : Layer) : Known layer.document := by
  intro place keys among
  simp only [mappings, List.mem_cons, Prod.mk.injEq, List.not_mem_nil, or_false] at among
  rcases among with ⟨rfl, rfl⟩ | ⟨rfl, rfl⟩ | ⟨rfl, rfl⟩
  · apply hasOnly_mapping
    simp only [List.forall_mem_append, List.forall_mem_cons]
    exact ⟨optional_known _ (by decide), by decide, optional_known _ (by decide), by decide,
      by decide, by decide, optional_known _ (by decide), by decide, by simp⟩
  · rw [layer.find_emulator]
    cases layer.emulator with
    | none => rintro _ ⟨⟩
    | some part => exact hasOnly_mapping (by simp [emulatorKeys])
  · rw [layer.find_timeouts]
    cases layer.timeouts with
    | none => rintro _ ⟨⟩
    | some part => exact hasOnly_mapping (by simp [timeoutKeys])

/-- What a document spells without unknown keys is read without any issue. -/
theorem validate_of_projects {layer : Layer} (accepts : Accepts value) (known : Known value)
    (projects : Projects value layer) : validate value strict = (layer, []) := by
  have quiet : (validate value strict).2 = [] := by
    apply List.eq_nil_iff_forall_not_mem.mpr
    intro issue told
    obtain ⟨offence, -⟩ := mem_validate.mp told
    rw [accepts_iff.mp accepts _ _ offence] at offence
    exact known_iff.mp known _ offence
  have same : (validate value strict).1 = layer := by
    rw [validate_layer value strict false]
    exact (projects_validate accepts).unique projects
  exact Prod.ext same quiet

theorem mappingOrNull_map {β : Type} (document : β → Value) (part : Option β)
    (mapping : ∀ part, ∃ entries, document part = .mapping entries) :
    ((part.map document).getD .null).MappingOrNull := by
  cases part with
  | none => exact .inl rfl
  | some part => exact .inr (mapping part)

/-- The document of a layer whose settings can be spelled is read as that layer. -/
theorem validate_document {layer : Layer} (settings : ∀ {α : Type} (field : Field α),
      field.kind.Gives (field.kind.spell (field.inLayer layer)) (field.inLayer layer)) :
    validate layer.document strict = (layer, []) := by
  have spelled {α : Type} (field : Field α) :
      field.kind.Gives (layer.document.find field.place) (field.inLayer layer) := by
    rw [layer.find_document]
    exact settings field
  have accepts : Accepts layer.document := by
    refine ⟨.inr ⟨_, rfl⟩, ?_, fun field => ⟨_, spelled field⟩⟩
    simp only [groupKeys, List.forall_mem_cons]
    rw [layer.find_emulator, layer.find_timeouts]
    exact ⟨mappingOrNull_map _ _ fun _ => ⟨_, rfl⟩, mappingOrNull_map _ _ fun _ => ⟨_, rfl⟩, by simp⟩
  have projects : Projects layer.document layer := by
    refine ⟨?_, ?_, spelled⟩
    · rw [layer.find_emulator]
      cases layer.emulator <;> simp [EmulatorLayer.document]
    · rw [layer.find_timeouts]
      cases layer.timeouts <;> simp [TimeoutLayer.document]
  exact validate_of_projects accepts (known_document layer) projects

/-- Unless it is strict, the schema finds no error in exactly the documents of the grammar.  For these
it gives the one layer that has what the document spells, and the document of this layer is read as
the same layer, without any issue. -/
theorem grammar_is_accepted (value : Value) :
    (Clean (validate value false).2 ↔ Accepts value) ∧
      (Accepts value →
        Projects value (validate value false).1 ∧
          (∀ other, Projects value other → other = (validate value false).1) ∧
          ∀ strict, validate (validate value false).1.document strict =
            ((validate value false).1, [])) := by
  refine ⟨clean_iff_accepts, fun accepts => ?_⟩
  have projects := projects_validate accepts
  refine ⟨projects, fun other again => again.unique projects, fun strict => ?_⟩
  exact validate_document fun field => (projects.settings field).again

/-- A document with an unknown key, a setting that is `null`, and an expectation that says more than
it should. -/
def wordy : Value := .mapping
  [("colour", .text "blue"), ("prompt", .null),
    ("emulator", .mapping [("args", .list [.text "-nographic", .text ""])]),
    ("expectations", .list [.mapping
      [("note", .text "slow"), ("label", .text "Shell loaded"), ("expected", .text "Welcome")]])]

/-- The layer that it spells. -/
def wordyLayer : Layer where
  emulator := some { args := some ["-nographic", ""] }
  expectations := some [{ label := "Shell loaded", expected := "Welcome" }]

theorem grammar_is_accepted_wordy :
    Accepts wordy ∧ Projects wordy wordyLayer ∧
      validate wordyLayer.document false = (wordyLayer, []) := by
  have read : validate wordy false = (wordyLayer, [⟨.warning, ["colour"], .unknownKey⟩]) := by
    decide +kernel
  obtain ⟨clean, projected⟩ := grammar_is_accepted wordy
  have accepts : Accepts wordy := by
    apply clean.mp
    rw [read]
    simp [Clean, Issue.isError]
  obtain ⟨projects, -, again⟩ := projected accepts
  rw [read] at projects again
  exact ⟨accepts, projects, again false⟩

end Schema

end ConsoleHarness
