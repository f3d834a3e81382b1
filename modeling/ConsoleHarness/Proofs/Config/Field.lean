import Mathlib.Data.List.Forall2
import ConsoleHarness.Config.Load

/-! # The fields of a layer

A `Field` names one setting of a layer, with its type.  The schema reads each of them on its own: what
it finds depends on the value at the field's place alone, and whatever is wrong there is told
(`Schema.validate_field`).  So a document without errors gives each field what it spells there, or
nothing (`Schema.gives_validate`).
-/

namespace ConsoleHarness

/-! ## Kinds of settings -/

/-- The kinds of settings. -/
inductive Kind : Type → Type
  | text : Kind String
  | texts : Kind (List String)
  | duration : Kind Millis
  | mirror : Kind MirrorMode
  | expectations : Kind (List Expectation)

/-- How a document spells an expectation. -/
def Expectation.SpelledBy (value : Value) (e : Expectation) : Prop :=
  ∃ entries, value = .mapping entries ∧
    (Value.lookup "label" entries = .text e.label ∧ e.label ≠ "") ∧
    (Value.lookup "expected" entries = .text e.expected ∧ e.expected ≠ "")

/-- How a document spells a setting. -/
def Kind.Spells {α : Type} (kind : Kind α) (value : Value) (setting : α) : Prop :=
  match kind with
  | .text => value = .text setting ∧ setting ≠ ""
  | .texts => value = .list (setting.map .text)
  | .duration => value = .number (.finite setting) ∧ 0 ≤ setting
  | .mirror => value = .text setting.text
  | .expectations =>
    ∃ items, value = .list items ∧ items ≠ [] ∧ List.Forall₂ Expectation.SpelledBy items setting

/-- The part of the schema that reads a setting. -/
def Kind.read {α : Type} : Kind α → Value → List String → Schema.Found α
  | .text => Schema.readText
  | .texts => Schema.readTextList
  | .duration => Schema.readDuration
  | .mirror => Schema.readMirror
  | .expectations => Schema.readExpectations

/-- What a value gives: nothing, or a setting that it spells. -/
inductive Kind.Gives {α : Type} (kind : Kind α) : Value → Option α → Prop
  | nothing : Kind.Gives kind .null none
  | setting {value setting} (spells : kind.Spells value setting) :
      Kind.Gives kind value (some setting)

/-! ## Fields -/

/-- The settings of a layer. -/
inductive Field : Type → Type
  | command : Field String
  | args : Field (List String)
  | kernelImage : Field String
  | cwd : Field String
  | prompt : Field String
  | bootTimeout : Field Millis
  | promptTimeout : Field Millis
  | settle : Field Millis
  | exitTimeout : Field Millis
  | killGrace : Field Millis
  | drain : Field Millis
  | commands : Field (List String)
  | shutdownCommand : Field String
  | artifactPath : Field String
  | mirror : Field MirrorMode
  | expectations : Field (List Expectation)

namespace Field

variable {α : Type}

/-- The kind of a field. -/
def kind : Field α → Kind α
  | .command | .kernelImage | .cwd | .prompt | .shutdownCommand | .artifactPath => .text
  | .args | .commands => .texts
  | .bootTimeout | .promptTimeout | .settle | .exitTimeout | .killGrace | .drain => .duration
  | .mirror => .mirror
  | .expectations => .expectations

/-- The keys on the way to a field. -/
def place : Field α → List String
  | .command => ["emulator", "command"]
  | .args => ["emulator", "args"]
  | .kernelImage => ["emulator", "kernelImage"]
  | .cwd => ["emulator", "cwd"]
  | .prompt => ["prompt"]
  | .bootTimeout => ["timeouts", "bootMs"]
  | .promptTimeout => ["timeouts", "promptMs"]
  | .settle => ["timeouts", "settleMs"]
  | .exitTimeout => ["timeouts", "exitMs"]
  | .killGrace => ["timeouts", "killGraceMs"]
  | .drain => ["timeouts", "drainMs"]
  | .commands => ["commands"]
  | .shutdownCommand => ["shutdownCommand"]
  | .artifactPath => ["artifactPath"]
  | .mirror => ["mirror"]
  | .expectations => ["expectations"]

/-- The setting that a layer has for a field. -/
def inLayer (layer : Layer) : Field α → Option α
  | .command => layer.emulatorPart.command
  | .args => layer.emulatorPart.args
  | .kernelImage => layer.emulatorPart.kernelImage
  | .cwd => layer.emulatorPart.cwd
  | .prompt => layer.prompt
  | .bootTimeout => layer.timeoutPart.boot
  | .promptTimeout => layer.timeoutPart.prompt
  | .settle => layer.timeoutPart.settle
  | .exitTimeout => layer.timeoutPart.exit
  | .killGrace => layer.timeoutPart.killGrace
  | .drain => layer.timeoutPart.drain
  | .commands => layer.commands
  | .shutdownCommand => layer.shutdownCommand
  | .artifactPath => layer.artifactPath
  | .mirror => layer.mirror
  | .expectations => layer.expectations

end Field

/-- The value at a place of a document; `null` if nothing is there. -/
def Value.find : Value → List String → Value
  | value, [] => value
  | .mapping entries, key :: rest => (Value.lookup key entries).find rest
  | _, _ :: _ => .null

@[simp] theorem Value.find_null (place : List String) : Value.null.find place = .null := by
  cases place <;> rfl

theorem MirrorMode.text_of_ofText? {name : String} {mode : MirrorMode}
    (found : MirrorMode.ofText? name = some mode) : mode.text = name := by
  simpa using List.find?_some found

namespace Schema

variable {α : Type}

/-! ## Readings without errors -/

/-- None of the issues is an error. -/
def Clean (issues : List Issue) : Prop := ∀ issue ∈ issues, issue.isError = false

theorem Clean.mono {issues more : List Issue} (clean : Clean more) (sub : issues ⊆ more) :
    Clean issues := fun issue member => clean issue (sub member)

@[simp] theorem clean_append {a b : List Issue} : Clean (a ++ b) ↔ Clean a ∧ Clean b :=
  List.forall_mem_append

theorem Clean.false_of_errorAt {place : List String} {problem : Problem} {rest : List Issue}
    (clean : Clean (errorAt place problem :: rest)) : False :=
  absurd (clean _ List.mem_cons_self) (by simp [errorAt, Issue.isError])

theorem gives_readText {value : Value} {place : List String}
    (clean : Clean (readText value place).2) : Kind.text.Gives value (readText value place).1 := by
  unfold readText at clean ⊢
  split at clean
  · exact .nothing
  · rename_i text
    split at clean
    · exact (Clean.false_of_errorAt clean).elim
    · rename_i filled
      rw [if_neg filled]
      exact .setting ⟨rfl, by simpa using filled⟩
  · exact (Clean.false_of_errorAt clean).elim

theorem gives_readDuration {value : Value} {place : List String}
    (clean : Clean (readDuration value place).2) :
    Kind.duration.Gives value (readDuration value place).1 := by
  unfold readDuration at clean ⊢
  split at clean
  · exact .nothing
  · split at clean
    · rename_i ms later
      rw [if_pos later]
      exact .setting ⟨rfl, later⟩
    · exact (Clean.false_of_errorAt clean).elim
  · exact (Clean.false_of_errorAt clean).elim

theorem readItems_of_clean {place : List String} {index : Nat} {items : List Value}
    (clean : Clean (readItems place index items).2) :
    items = (readItems place index items).1.map .text := by
  induction items generalizing index with
  | nil => rfl
  | cons item rest ih =>
    unfold readItems at clean ⊢
    dsimp only at clean ⊢
    split at clean
    · exact congrArg (_ :: ·) (ih clean)
    · exact (Clean.false_of_errorAt clean).elim

theorem gives_readTextList {value : Value} {place : List String}
    (clean : Clean (readTextList value place).2) :
    Kind.texts.Gives value (readTextList value place).1 := by
  unfold readTextList at clean ⊢
  split at clean
  · exact .nothing
  · exact .setting (congrArg Value.list (readItems_of_clean clean))
  · exact (Clean.false_of_errorAt clean).elim

theorem gives_readMirror {value : Value} {place : List String}
    (clean : Clean (readMirror value place).2) :
    Kind.mirror.Gives value (readMirror value place).1 := by
  have text : Clean (readText value place).2 →
      Kind.text.Gives value (readText value place).1 := gives_readText
  unfold readMirror at clean ⊢
  cases read : readText value place with
  | mk found issues =>
    rw [read] at clean text
    cases found with
    | none =>
      cases text clean
      exact .nothing
    | some name =>
      dsimp only at clean ⊢
      split at clean
      · rename_i mode named
        cases text clean with
        | setting spells =>
          exact .setting (by rw [Kind.Spells, MirrorMode.text_of_ofText? named]; exact spells.1)
      · exact (clean_append.mp clean).2.false_of_errorAt.elim

/-- A text that must not be missing is there. -/
theorem exists_readText {value : Value} {place : List String}
    (clean : Clean (readText value place).2) (required : Clean (requireValue value place)) :
    ∃ text, (readText value place).1 = some text ∧ value = .text text ∧ text ≠ "" := by
  have gives := gives_readText clean
  cases found : (readText value place).1 with
  | none =>
    rw [found] at gives
    cases gives
    exact (Clean.false_of_errorAt required).elim
  | some text =>
    rw [found] at gives
    cases gives with
    | setting spells => exact ⟨text, rfl, spells⟩

theorem spelledBy_readExpectation {value : Value} {place : List String}
    (clean : Clean (readExpectation value place).2) :
    ∃ e, (readExpectation value place).1 = some e ∧ Expectation.SpelledBy value e := by
  unfold readExpectation at clean ⊢
  split at clean
  · rename_i entries
    have parts : Clean ((readText (Value.lookup "label" entries) (place ++ ["label"])).2 ++
        (readText (Value.lookup "expected" entries) (place ++ ["expected"])).2 ++
        requireValue (Value.lookup "label" entries) (place ++ ["label"]) ++
        requireValue (Value.lookup "expected" entries) (place ++ ["expected"])) := by
      dsimp only at clean
      split at clean <;> exact clean
    simp only [clean_append] at parts
    obtain ⟨⟨⟨labelled, expecting⟩, hasLabel⟩, hasExpected⟩ := parts
    obtain ⟨label, readLabel, spelledLabel⟩ := exists_readText labelled hasLabel
    obtain ⟨expected, readExpected, spelledExpected⟩ := exists_readText expecting hasExpected
    refine ⟨{ label, expected }, ?_, entries, rfl, spelledLabel, spelledExpected⟩
    dsimp only
    rw [readLabel, readExpected]
  · exact (Clean.false_of_errorAt clean).elim

theorem spelledBy_readEntries {place : List String} {index : Nat} {items : List Value}
    (clean : Clean (readEntries place index items).2) :
    List.Forall₂ Expectation.SpelledBy items (readEntries place index items).1 := by
  induction items generalizing index with
  | nil => exact .nil
  | cons item rest ih =>
    unfold readEntries at clean ⊢
    obtain ⟨own, others⟩ := clean_append.mp clean
    obtain ⟨e, found, spelled⟩ := spelledBy_readExpectation own
    dsimp only
    rw [found]
    exact .cons spelled (ih others)

theorem gives_readExpectations {value : Value} {place : List String}
    (clean : Clean (readExpectations value place).2) :
    Kind.expectations.Gives value (readExpectations value place).1 := by
  unfold readExpectations at clean ⊢
  split at clean
  · exact .nothing
  · rename_i items
    split at clean
    · exact (Clean.false_of_errorAt clean).elim
    · rename_i filled
      rw [if_neg filled]
      exact .setting ⟨items, rfl, by simpa using filled, spelledBy_readEntries clean⟩
  · exact (Clean.false_of_errorAt clean).elim

/-- What is read without an error is what the value gives. -/
theorem gives_read (kind : Kind α) {value : Value} {place : List String}
    (clean : Clean (kind.read value place).2) : kind.Gives value (kind.read value place).1 := by
  cases kind with
  | text => exact gives_readText clean
  | texts => exact gives_readTextList clean
  | duration => exact gives_readDuration clean
  | mirror => exact gives_readMirror clean
  | expectations => exact gives_readExpectations clean

/-! ## Each field is read on its own -/

/-- Nothing is read where there is nothing. -/
theorem read_null (kind : Kind α) (place : List String) : kind.read .null place = (none, []) := by
  cases kind <;> rfl

/-- What a group of a document has for a field is read from the value at the field's key. -/
theorem readPart_field {β : Type} (get : β → Option α) (kind : Kind α) (value : Value)
    (group key : String) {read : Entries → β × List Issue} {empty : β} (none : get empty = .none)
    (own : ∀ entries, get (read entries).1 = (kind.read (Value.lookup key entries) [group, key]).1)
    (told : ∀ entries, (kind.read (Value.lookup key entries) [group, key]).2 ⊆ (read entries).2) :
    get ((readPart value [group] read).1.getD empty) =
        (kind.read (value.find [key]) [group, key]).1 ∧
      (kind.read (value.find [key]) [group, key]).2 ⊆ (readPart value [group] read).2 := by
  cases value with
  | mapping entries =>
    refine ⟨own entries, List.Subset.trans (told entries) ?_⟩
    simp [readPart, readMapping]
  | _ =>
    -- Where there is no mapping, there is nothing at its keys.
    change get empty = (kind.read .null _).1 ∧ (kind.read .null _).2 ⊆ _
    rw [read_null]
    exact ⟨none, List.nil_subset _⟩

section Root

variable (entries : Entries) (strict : Bool)

/-- Whatever is wrong with the emulator settings is told. -/
theorem readEmulator_told (inner : Entries) :
    (readText (Value.lookup "command" inner) ["emulator", "command"]).2 ⊆
        (readEmulator inner strict).2 ∧
      (readTextList (Value.lookup "args" inner) ["emulator", "args"]).2 ⊆
        (readEmulator inner strict).2 ∧
      (readText (Value.lookup "kernelImage" inner) ["emulator", "kernelImage"]).2 ⊆
        (readEmulator inner strict).2 ∧
      (readText (Value.lookup "cwd" inner) ["emulator", "cwd"]).2 ⊆
        (readEmulator inner strict).2 := by
  refine ⟨?_, ?_, ?_, ?_⟩
  all_goals
    intro issue member
    simp [readEmulator, member]

/-- Whatever is wrong with a duration is told. -/
theorem readTimeouts_told (inner : Entries) : ∀ key ∈ timeoutKeys,
    (readDuration (Value.lookup key inner) ["timeouts", key]).2 ⊆ (readTimeouts inner strict).2 := by
  intro key known issue member
  simp only [timeoutKeys, List.mem_cons, List.not_mem_nil, or_false] at known
  rcases known with rfl | rfl | rfl | rfl | rfl | rfl
  all_goals simp [readTimeouts, member]

/-- What the emulator settings of a document have for a field. -/
theorem readRoot_emulator (get : EmulatorLayer → Option α) (kind : Kind α) (key : String)
    (none : get {} = .none)
    (own : ∀ inner, get (readEmulator inner strict).1 =
      (kind.read (Value.lookup key inner) ["emulator", key]).1)
    (told : ∀ inner, (kind.read (Value.lookup key inner) ["emulator", key]).2 ⊆
      (readEmulator inner strict).2) :
    get (readRoot entries strict).1.emulatorPart =
        (kind.read ((Value.mapping entries).find ["emulator", key]) ["emulator", key]).1 ∧
      (kind.read ((Value.mapping entries).find ["emulator", key]) ["emulator", key]).2 ⊆
        (readRoot entries strict).2 := by
  obtain ⟨same, sub⟩ := readPart_field get kind (Value.lookup "emulator" entries) "emulator" key
    none own told
  refine ⟨same, List.Subset.trans sub fun issue member => ?_⟩
  simp [readRoot, member]

/-- What the durations of a document have for a field. -/
theorem readRoot_timeouts (get : TimeoutLayer → Option Millis) {key : String}
    (known : key ∈ timeoutKeys) (none : get {} = .none)
    (own : ∀ inner, get (readTimeouts inner strict).1 =
      (readDuration (Value.lookup key inner) ["timeouts", key]).1) :
    get (readRoot entries strict).1.timeoutPart =
        (readDuration ((Value.mapping entries).find ["timeouts", key]) ["timeouts", key]).1 ∧
      (readDuration ((Value.mapping entries).find ["timeouts", key]) ["timeouts", key]).2 ⊆
        (readRoot entries strict).2 := by
  obtain ⟨same, sub⟩ := readPart_field get .duration (Value.lookup "timeouts" entries) "timeouts"
    key none own fun inner => readTimeouts_told strict inner key known
  refine ⟨same, List.Subset.trans sub fun issue member => ?_⟩
  simp only [readRoot, List.mem_append]
  tauto

theorem readRoot_field (field : Field α) :
    field.inLayer (readRoot entries strict).1 =
        (field.kind.read ((Value.mapping entries).find field.place) field.place).1 ∧
      (field.kind.read ((Value.mapping entries).find field.place) field.place).2 ⊆
        (readRoot entries strict).2 := by
  have timeouts {key : String} (known : key ∈ timeoutKeys) (get : TimeoutLayer → Option Millis) :=
    readRoot_timeouts entries strict get known
  have told := readEmulator_told strict
  cases field with
  | command =>
    exact readRoot_emulator entries strict (·.command) .text "command" rfl (fun _ => rfl)
      fun inner => (told inner).1
  | args =>
    exact readRoot_emulator entries strict (·.args) .texts "args" rfl (fun _ => rfl)
      fun inner => (told inner).2.1
  | kernelImage =>
    exact readRoot_emulator entries strict (·.kernelImage) .text "kernelImage" rfl (fun _ => rfl)
      fun inner => (told inner).2.2.1
  | cwd =>
    exact readRoot_emulator entries strict (·.cwd) .text "cwd" rfl (fun _ => rfl)
      fun inner => (told inner).2.2.2
  | bootTimeout =>
    exact timeouts (by decide : "bootMs" ∈ timeoutKeys) (·.boot) rfl fun _ => rfl
  | promptTimeout =>
    exact timeouts (by decide : "promptMs" ∈ timeoutKeys) (·.prompt) rfl fun _ => rfl
  | settle =>
    exact timeouts (by decide : "settleMs" ∈ timeoutKeys) (·.settle) rfl fun _ => rfl
  | exitTimeout =>
    exact timeouts (by decide : "exitMs" ∈ timeoutKeys) (·.exit) rfl fun _ => rfl
  | killGrace =>
    exact timeouts (by decide : "killGraceMs" ∈ timeoutKeys) (·.killGrace) rfl fun _ => rfl
  | drain =>
    exact timeouts (by decide : "drainMs" ∈ timeoutKeys) (·.drain) rfl fun _ => rfl
  | _ =>
    -- The other fields stand at the root.
    refine ⟨rfl, fun issue member => ?_⟩
    simp only [readRoot, List.mem_append]
    tauto

end Root

/-- What a document has for a field is read from the value at the field's place, and what is wrong
there is told. -/
theorem validate_field (value : Value) (strict : Bool) (field : Field α) :
    field.inLayer (validate value strict).1 =
        (field.kind.read (value.find field.place) field.place).1 ∧
      (field.kind.read (value.find field.place) field.place).2 ⊆ (validate value strict).2 := by
  have nothing (issues : List Issue) (other : ∀ key rest, value.find (key :: rest) = .null) :
      field.inLayer {} = (field.kind.read (value.find field.place) field.place).1 ∧
        (field.kind.read (value.find field.place) field.place).2 ⊆ issues := by
    have missing : value.find field.place = .null := by cases field <;> exact other _ _
    rw [missing, read_null]
    exact ⟨by cases field <;> rfl, List.nil_subset _⟩
  cases value with
  | mapping entries => exact readRoot_field entries strict field
  | null => exact nothing [] fun _ _ => rfl
  | _ => exact nothing _ fun _ _ => rfl

/-- A document without errors gives every field what the value at its place says. -/
theorem gives_validate {value : Value} {strict : Bool} (clean : Clean (validate value strict).2)
    (field : Field α) :
    field.kind.Gives (value.find field.place) (field.inLayer (validate value strict).1) := by
  obtain ⟨same, sub⟩ := validate_field value strict field
  rw [same]
  exact gives_read field.kind (clean.mono sub)

end Schema

end ConsoleHarness
