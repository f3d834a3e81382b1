import ConsoleHarness.Proofs.Config.Fault
import ConsoleHarness.Proofs.Config.Lawful

/-! # What is wrong with a document

`Schema.Offence` says, without the schema's readers, at which places of a document something is wrong,
and what.  The schema tells exactly these offences (`Schema.mem_validate`), no place twice
(`Schema.nodup_validate`), and what it tells of a key of the document depends on the value there alone
(`Schema.issuesUnder_validate`).

A document is made of mappings with keys that the schema knows.  A `Schema.Part` is such a key with
the issues of the value there; it brings along what putting parts together into a mapping needs, so
that the document is dealt with as the mappings inside it are.
-/

namespace ConsoleHarness

namespace Schema

/-! ## Offences -/

/-- The keys of the mappings inside a document. -/
def groupKeys : List String := ["emulator", "timeouts"]

/-- The mappings of a document: the place of each, and the keys that are known there. -/
def mappings : List (List String × List String) :=
  [([], rootKeys), (["emulator"], emulatorKeys), (["timeouts"], timeoutKeys)]

/-- What is wrong with a document, and where. -/
inductive Offence (value : Value) : List String → Problem → Prop
  | unknownKey {place keys entries key} (known : (place, keys) ∈ mappings)
      (here : value.find place = .mapping entries) (present : key ∈ entries.map Prod.fst)
      (unknown : key ∉ keys) : Offence value (place ++ [key]) .unknownKey
  | notConfig (there : value ≠ .null) (other : ∀ entries, value ≠ .mapping entries) :
      Offence value [] .notConfig
  | notMapping {key} (group : key ∈ groupKeys) (there : value.find [key] ≠ .null)
      (other : ∀ entries, value.find [key] ≠ .mapping entries) :
      Offence value [key] (.notMapping (value.find [key]).typeName)
  | setting {α : Type} (field : Field α) {rest problem}
      (fault : field.kind.Fault (value.find field.place) rest problem) :
      Offence value (field.place ++ rest) problem

theorem mem_keys_of_lookup {entries : Entries} {key : String}
    (there : Value.lookup key entries ≠ .null) : key ∈ entries.map Prod.fst := by
  induction entries with
  | nil => contradiction
  | cons entry rest ih =>
    obtain ⟨name, value⟩ := entry
    by_cases same : key = name
    · exact List.mem_cons.mpr (.inl same)
    · rw [Value.lookup_cons, if_neg same] at there
      exact List.mem_cons_of_mem _ (ih there)

theorem mem_keys_of_find {entries : Entries} {key : String} {rest : List String}
    (there : (Value.mapping entries).find (key :: rest) ≠ .null) : key ∈ entries.map Prod.fst := by
  apply mem_keys_of_lookup
  intro gone
  rw [Value.find, gone, Value.find_null] at there
  contradiction

/-- What is wrong with a mapping is wrong with the value of one of its keys. -/
theorem Offence.exists_key {entries : Entries} {place : List String} {problem : Problem}
    (offence : Offence (.mapping entries) place problem) :
    ∃ key ∈ entries.map Prod.fst, place.head? = some key := by
  have inside {key : String} {rest : List String}
      (there : (Value.mapping entries).find (key :: rest) ≠ .null) (more : List String) :
      ∃ name ∈ entries.map Prod.fst, (key :: rest ++ more).head? = some name :=
    ⟨key, mem_keys_of_find there, rfl⟩
  cases offence with
  | @unknownKey place keys inner key known here present =>
    cases place with
    | nil =>
      obtain rfl := Value.mapping.inj here
      exact ⟨key, present, rfl⟩
    | cons first rest => exact inside (by simp [here]) [key]
  | notConfig there other => exact absurd rfl (other entries)
  | notMapping group there => exact inside there []
  | setting field fault =>
    have there := ne_null_of_fault fault
    cases place : field.place with
    | nil => cases field <;> cases place
    | cons key rest =>
      rw [place] at there
      exact inside there _

/-- How bad a problem with a document is. -/
def severity (strict : Bool) : Problem → Severity
  | .unknownKey => if strict then .error else .warning
  | _ => .error

/-! ## Mappings part by part -/

/-- A key of the mapping at a place, and what is told of the value there. -/
structure Part (place : List String) where
  key : String
  issues : Bool → Value → List Issue
  quiet : ∀ strict, issues strict .null = []
  under : ∀ {strict value issue}, issue ∈ issues strict value → place ++ [key] <+: issue.place
  once : ∀ strict {value}, value.Lawful → ((issues strict value).map Issue.place).Nodup

/-- What is told of a value that should be a mapping of some parts. -/
def mappingIssues {place : List String} (parts : List (Part place)) (refusal : Value → Problem)
    (strict : Bool) : Value → List Issue
  | .null => []
  | .mapping entries =>
    unknownKeys entries (parts.map Part.key) place strict ++
      parts.flatMap fun part => part.issues strict (Value.lookup part.key entries)
  | other => [errorAt place (refusal other)]

section Mapping

variable {place : List String} {parts : List (Part place)} {refusal : Value → Problem}
  {strict : Bool} {value : Value} {issue : Issue}

theorem mem_unknownKeys {entries : Entries} {known : List String} :
    issue ∈ unknownKeys entries known place strict ↔ ∃ key ∈ entries.map Prod.fst, key ∉ known ∧
      issue = ⟨severity strict .unknownKey, place ++ [key], .unknownKey⟩ := by
  simp only [unknownKeys, List.mem_map, List.mem_filter, severity]
  constructor
  · rintro ⟨entry, ⟨present, unknown⟩, rfl⟩
    exact ⟨entry.1, ⟨entry, present, rfl⟩, by simpa using unknown, rfl⟩
  · rintro ⟨key, ⟨entry, present, rfl⟩, unknown, rfl⟩
    exact ⟨entry, ⟨present, by simpa using unknown⟩, rfl⟩

theorem mem_mappingIssues :
    issue ∈ mappingIssues parts refusal strict value ↔
      (value ≠ .null ∧ (∀ entries, value ≠ .mapping entries) ∧
          issue = errorAt place (refusal value)) ∨
        (∃ entries, value = .mapping entries ∧ ∃ key ∈ entries.map Prod.fst,
          key ∉ parts.map Part.key ∧
            issue = ⟨severity strict .unknownKey, place ++ [key], .unknownKey⟩) ∨
        ∃ part ∈ parts, issue ∈ part.issues strict (value.find [part.key]) := by
  -- Where there is no mapping, nothing is found at its keys.
  have nowhere (missing : ∀ key, value.find [key] = .null) :
      ¬ ∃ part ∈ parts, issue ∈ part.issues strict (value.find [part.key]) := by
    rintro ⟨part, -, told⟩
    rw [missing, part.quiet] at told
    cases told
  cases value with
  | null => simpa [mappingIssues] using nowhere fun _ => rfl
  | mapping entries =>
    simp only [mappingIssues, List.mem_append, mem_unknownKeys, List.mem_flatMap]
    simp [Value.find]
  | _ =>
    have nothing := nowhere fun _ => rfl
    simp [mappingIssues, nothing]

theorem under_mappingIssues (told : issue ∈ mappingIssues parts refusal strict value) :
    place <+: issue.place := by
  rcases mem_mappingIssues.mp told with ⟨-, -, rfl⟩ | ⟨entries, -, key, -, -, rfl⟩ | ⟨part, -, told⟩
  · exact List.prefix_rfl
  · exact List.prefix_append place [key]
  · exact (List.prefix_append place [part.key]).trans (part.under told)

theorem unknownKeys_places {entries : Entries} {known : List String} :
    (unknownKeys entries known place strict).map Issue.place =
      ((entries.map Prod.fst).filter (!known.contains ·)).map fun key => place ++ [key] := by
  simp [unknownKeys, List.filter_map, Function.comp_def]

theorem nodup_mappingIssues (distinct : (parts.map Part.key).Nodup) (lawful : value.Lawful) :
    ((mappingIssues parts refusal strict value).map Issue.place).Nodup := by
  cases value with
  | null => simp [mappingIssues]
  | mapping entries =>
    rw [mappingIssues, List.map_append]
    apply List.nodup_append.mpr
    refine ⟨?_, ?_, ?_⟩
    · rw [unknownKeys_places]
      apply (lawful.keys.filter _).map
      intro first second same
      simpa using same
    · apply nodup_places place Part.key distinct
      · intro part _ issue told
        exact part.under told
      · intro part _
        exact part.once strict (lawful.lookup part.key)
    · -- An unknown key is none of the parts' keys.
      intro first firstAt second secondAt same
      obtain ⟨one, told, rfl⟩ := List.mem_map.mp firstAt
      obtain ⟨other, otherTold, rfl⟩ := List.mem_map.mp secondAt
      obtain ⟨key, -, unknown, rfl⟩ := mem_unknownKeys.mp told
      obtain ⟨part, known, otherTold⟩ := List.mem_flatMap.mp otherTold
      have prefixed := part.under otherTold
      rw [← same] at prefixed
      have keys := prefixed.eq_of_length (by simp)
      apply unknown
      rw [← List.singleton_inj.mp (List.append_cancel_left keys)]
      exact List.mem_map_of_mem known
  | _ => simp [mappingIssues]

end Mapping

/-! ## The parts of a document -/

/-- The part that holds a field. -/
def Part.setting {α : Type} {place : List String} (field : Field α) (key : String)
    (here : field.place = place ++ [key]) : Part place where
  key
  issues _ value := (field.kind.read value field.place).2
  quiet _ := congrArg Prod.snd (read_null field.kind field.place)
  under told := by
    rw [← here]
    exact under_read field.kind told
  once _ _ _ := nodup_read field.kind

/-- The part that holds a mapping. -/
def Part.group (key : String) (parts : List (Part [key]))
    (distinct : (parts.map Part.key).Nodup) : Part [] where
  key
  issues := mappingIssues parts fun value => .notMapping value.typeName
  quiet _ := rfl
  under := under_mappingIssues
  once _ _ := nodup_mappingIssues distinct

def emulatorParts : List (Part ["emulator"]) :=
  [.setting .command "command" rfl, .setting .args "args" rfl,
    .setting .kernelImage "kernelImage" rfl, .setting .cwd "cwd" rfl]

def timeoutParts : List (Part ["timeouts"]) :=
  [.setting .bootTimeout "bootMs" rfl, .setting .promptTimeout "promptMs" rfl,
    .setting .settle "settleMs" rfl, .setting .exitTimeout "exitMs" rfl,
    .setting .killGrace "killGraceMs" rfl, .setting .drain "drainMs" rfl]

def rootParts : List (Part []) :=
  [.group "emulator" emulatorParts (by decide), .setting .prompt "prompt" rfl,
    .group "timeouts" timeoutParts (by decide), .setting .commands "commands" rfl,
    .setting .shutdownCommand "shutdownCommand" rfl, .setting .artifactPath "artifactPath" rfl,
    .setting .mirror "mirror" rfl, .setting .expectations "expectations" rfl]

theorem readPart_issues {β : Type} {key : String} {parts : List (Part [key])} {strict : Bool}
    {read : Entries → β × List Issue}
    (same : ∀ entries, (read entries).2 = unknownKeys entries (parts.map Part.key) [key] strict ++
      parts.flatMap fun part => part.issues strict (Value.lookup part.key entries))
    (value : Value) :
    (readPart value [key] read).2 =
      mappingIssues parts (fun value => .notMapping value.typeName) strict value := by
  cases value with
  | mapping entries => exact same entries
  | _ => rfl

theorem readEmulator_issues (entries : Entries) (strict : Bool) :
    (readEmulator entries strict).2 =
      unknownKeys entries (emulatorParts.map Part.key) ["emulator"] strict ++
        emulatorParts.flatMap fun part => part.issues strict (Value.lookup part.key entries) := by
  simp only [readEmulator, emulatorParts, List.flatMap_cons, List.flatMap_nil, List.append_nil,
    List.append_assoc]
  rfl

theorem readTimeouts_issues (entries : Entries) (strict : Bool) :
    (readTimeouts entries strict).2 =
      unknownKeys entries (timeoutParts.map Part.key) ["timeouts"] strict ++
        timeoutParts.flatMap fun part => part.issues strict (Value.lookup part.key entries) := by
  simp only [readTimeouts, timeoutParts, List.flatMap_cons, List.flatMap_nil, List.append_nil,
    List.append_assoc]
  rfl

/-- The issues of a document are those of its parts. -/
theorem validate_issues (value : Value) (strict : Bool) :
    (validate value strict).2 = mappingIssues rootParts (fun _ => .notConfig) strict value := by
  cases value with
  | mapping entries =>
    have emulator := readPart_issues (readEmulator_issues · strict)
    have timeouts := readPart_issues (readTimeouts_issues · strict)
    simp only [validate, readRoot, emulator, timeouts, mappingIssues, rootParts, List.flatMap_cons,
      List.flatMap_nil, List.append_nil, List.append_assoc]
    rfl
  | _ => rfl

/-! ## What is told of a document -/

section Document

variable {value : Value} {strict : Bool} {issue : Issue}

/-- A part that holds a field. -/
inductive Part.HoldsField {place : List String} : Part place → Prop
  | setting {α : Type} (field : Field α) {key : String} (here : field.place = place ++ [key]) :
      Part.HoldsField (.setting field key here)

/-- Parts of a group: they hold fields, under all the keys that are known there. -/
structure Fields {key : String} (parts : List (Part [key])) : Prop where
  group : key ∈ groupKeys
  known : ([key], parts.map Part.key) ∈ mappings
  each : ∀ part ∈ parts, part.HoldsField

theorem emulatorParts_fields : Fields emulatorParts where
  group := by decide
  known := by decide
  each := by
    simp only [emulatorParts, List.forall_mem_cons]
    exact ⟨.setting .command _, .setting .args _, .setting .kernelImage _, .setting .cwd _,
      by simp⟩

theorem timeoutParts_fields : Fields timeoutParts where
  group := by decide
  known := by decide
  each := by
    simp only [timeoutParts, List.forall_mem_cons]
    exact ⟨.setting .bootTimeout _, .setting .promptTimeout _, .setting .settle _,
      .setting .exitTimeout _, .setting .killGrace _, .setting .drain _, by simp⟩

/-- A part of a document holds a group or a field. -/
inductive Part.Holds : Part [] → Prop
  | group {key : String} {parts : List (Part [key])} (distinct : (parts.map Part.key).Nodup)
      (fields : Fields parts) : Part.Holds (.group key parts distinct)
  | field {part : Part []} (holds : part.HoldsField) : Part.Holds part

theorem rootParts_hold : ∀ part ∈ rootParts, part.Holds := by
  simp only [rootParts, List.forall_mem_cons]
  exact ⟨.group _ emulatorParts_fields, .field (.setting .prompt _),
    .group _ timeoutParts_fields, .field (.setting .commands _),
    .field (.setting .shutdownCommand _), .field (.setting .artifactPath _),
    .field (.setting .mirror _), .field (.setting .expectations _), by simp⟩

theorem find_append (value : Value) (place rest : List String) :
    value.find (place ++ rest) = (value.find place).find rest := by
  induction place generalizing value with
  | nil => cases value <;> rfl
  | cons key place ih =>
    cases value with
    | mapping entries => exact ih _
    | _ =>
      rw [List.cons_append, Value.find, Value.find, Value.find_null]
      all_goals simp

/-- What an issue says is wrong with a document, and as bad as it says. -/
structure Justified (value : Value) (strict : Bool) (issue : Issue) : Prop where
  offence : Offence value issue.place issue.problem
  severity : issue.severity = severity strict issue.problem

theorem justified_of_read {α : Type} {field : Field α}
    (told : issue ∈ (field.kind.read (value.find field.place) field.place).2) :
    Justified value strict issue := by
  obtain ⟨rest, problem, fault, rfl⟩ := (mem_read field.kind).mp told
  refine ⟨.setting field fault, ?_⟩
  cases problem with
  | unknownKey => exact absurd rfl fault.ne_unknownKey
  | _ => rfl

theorem justified_of_part {place : List String} {part : Part place} (holds : part.HoldsField)
    (told : issue ∈ part.issues strict (value.find (place ++ [part.key]))) :
    Justified value strict issue := by
  cases holds with
  | setting field here =>
    change issue ∈ (field.kind.read (value.find _) field.place).2 at told
    rw [Part.setting, ← here] at told
    exact justified_of_read told

theorem justified_of_group {key : String} {parts : List (Part [key])} (fields : Fields parts)
    (told : issue ∈ mappingIssues parts (fun value => .notMapping value.typeName) strict
      (value.find [key])) : Justified value strict issue := by
  rcases mem_mappingIssues.mp told with ⟨there, other, rfl⟩ |
    ⟨entries, here, name, present, unknown, rfl⟩ | ⟨part, member, told⟩
  · exact ⟨.notMapping fields.group there other, rfl⟩
  · exact ⟨.unknownKey fields.known here present unknown, rfl⟩
  · rw [← find_append] at told
    exact justified_of_part (fields.each part member) told

theorem told_of_group {key : String} {parts : List (Part [key])}
    {distinct : (parts.map Part.key).Nodup} (known : .group key parts distinct ∈ rootParts)
    (told : issue ∈ mappingIssues parts (fun value => .notMapping value.typeName) strict
      (value.find [key])) : issue ∈ (validate value strict).2 := by
  rw [validate_issues]
  exact mem_mappingIssues.mpr (.inr (.inr ⟨_, known, told⟩))

theorem told_of_offence {place : List String} {problem : Problem} (strict : Bool)
    (offence : Offence value place problem) :
    ⟨severity strict problem, place, problem⟩ ∈ (validate value strict).2 := by
  have emulator : .group "emulator" emulatorParts (by decide) ∈ rootParts := by simp [rootParts]
  have timeouts : .group "timeouts" timeoutParts (by decide) ∈ rootParts := by simp [rootParts]
  cases offence with
  | unknownKey known here present unknown =>
    have told {place : List String} {parts : List (Part place)} {refusal : Value → Problem}
        (here : value.find place = .mapping _) (unknown : _ ∉ parts.map Part.key) :
        ⟨severity strict .unknownKey, place ++ [_], .unknownKey⟩ ∈
          mappingIssues parts refusal strict (value.find place) :=
      mem_mappingIssues.mpr (.inr (.inl ⟨_, here, _, present, unknown, rfl⟩))
    simp only [mappings, List.mem_cons, Prod.mk.injEq, List.not_mem_nil, or_false] at known
    rcases known with ⟨rfl, rfl⟩ | ⟨rfl, rfl⟩ | ⟨rfl, rfl⟩
    · rw [validate_issues]
      exact told here unknown
    · exact told_of_group emulator (told here unknown)
    · exact told_of_group timeouts (told here unknown)
  | notConfig there other =>
    rw [validate_issues]
    exact mem_mappingIssues.mpr (.inl ⟨there, other, rfl⟩)
  | notMapping group there other =>
    simp only [groupKeys, List.mem_cons, List.not_mem_nil, or_false] at group
    rcases group with rfl | rfl
    · exact told_of_group emulator (mem_mappingIssues.mpr (.inl ⟨there, other, rfl⟩))
    · exact told_of_group timeouts (mem_mappingIssues.mpr (.inl ⟨there, other, rfl⟩))
  | setting field fault =>
    apply (validate_field value strict field).2
    refine (mem_read field.kind).mpr ⟨_, problem, fault, ?_⟩
    cases problem with
    | unknownKey => exact absurd rfl fault.ne_unknownKey
    | _ => rfl

/-- The schema tells what is wrong with a document, and nothing else. -/
theorem mem_validate : issue ∈ (validate value strict).2 ↔ Justified value strict issue := by
  constructor
  · intro told
    rw [validate_issues] at told
    rcases mem_mappingIssues.mp told with ⟨there, other, rfl⟩ |
      ⟨entries, rfl, key, present, unknown, rfl⟩ | ⟨part, known, told⟩
    · exact ⟨.notConfig there other, rfl⟩
    · exact ⟨.unknownKey List.mem_cons_self rfl present unknown, rfl⟩
    · cases rootParts_hold part known with
      | group distinct fields => exact justified_of_group fields told
      | field holds => exact justified_of_part holds told
  · rintro ⟨offence, severe⟩
    have told := told_of_offence strict offence
    rw [← severe] at told
    exact told

/-- The schema tells no place of a document twice. -/
theorem nodup_validate (strict : Bool) (lawful : value.Lawful) :
    ((validate value strict).2.map Issue.place).Nodup := by
  rw [validate_issues]
  exact nodup_mappingIssues (by decide) lawful

/-! ## Each key on its own -/

/-- The issues that belong to a key of the document. -/
def issuesUnder (key : String) (issues : List Issue) : List Issue :=
  issues.filter (·.place.head? = some key)

theorem issuesUnder_unknownKeys {entries : Entries} {known : List String} {key : String} :
    issuesUnder key (unknownKeys entries known [] strict) =
      unknownKeys (entries.filter (·.1 = key)) known [] strict := by
  simp [issuesUnder, unknownKeys, List.filter_map, Function.comp_def, Bool.and_comm]

/-- A mapping without repeated keys has a key at most once. -/
theorem filter_key {entries : Entries} (keys : (entries.map Prod.fst).Nodup) (key : String) :
    entries.filter (·.1 = key) = ((List.lookup key entries).map (key, ·)).toList := by
  induction entries with
  | nil => rfl
  | cons entry rest ih =>
    obtain ⟨name, value⟩ := entry
    obtain ⟨fresh, keys⟩ := List.nodup_cons.mp keys
    have others := ih keys
    by_cases same : name = key
    · subst same
      have gone : rest.filter (·.1 = name) = [] := by
        apply List.filter_eq_nil_iff.mpr
        intro entry member
        simpa using fun again => fresh (List.mem_map.mpr ⟨entry, member, again⟩)
      simp [gone]
    · rw [List.filter_cons_of_neg (by simpa using same), others, List.lookup_cons,
        beq_false_of_ne (Ne.symm same)]

theorem issuesUnder_part {part : Part []} {key : String} :
    issuesUnder key (part.issues strict value) =
      if part.key = key then part.issues strict value else [] := by
  have head {issue : Issue} (told : issue ∈ part.issues strict value) :
      issue.place.head? = some part.key := by
    obtain ⟨rest, place⟩ := part.under told
    rw [← place]
    rfl
  split
  · rename_i same
    exact List.filter_eq_self.mpr fun issue told => by simp [head told, same]
  · rename_i differ
    exact List.filter_eq_nil_iff.mpr fun issue told => by simp [head told, differ]

theorem lookup_eq_getD (key : String) (entries : Entries) :
    Value.lookup key entries = (List.lookup key entries).getD .null := by
  induction entries with
  | nil => rfl
  | cons entry rest ih =>
    obtain ⟨name, value⟩ := entry
    by_cases same : key = name
    · simp [same]
    · rw [Value.lookup_cons, if_neg same, ih, List.lookup_cons, beq_false_of_ne same]

/-- What is told of a key depends on the value there alone. -/
theorem issuesUnder_validate {entries others : Entries} {key : String}
    (keys : (entries.map Prod.fst).Nodup) (otherKeys : (others.map Prod.fst).Nodup)
    (same : List.lookup key others = List.lookup key entries) :
    issuesUnder key (validate (.mapping others) strict).2 =
      issuesUnder key (validate (.mapping entries) strict).2 := by
  have split (entries : Entries) :
      issuesUnder key (validate (.mapping entries) strict).2 =
        issuesUnder key (unknownKeys entries (rootParts.map Part.key) [] strict) ++
          rootParts.flatMap fun part =>
            issuesUnder key (part.issues strict (Value.lookup part.key entries)) := by
    rw [validate_issues, mappingIssues, issuesUnder, List.filter_append, List.filter_flatMap]
    rfl
  rw [split, split, issuesUnder_unknownKeys, issuesUnder_unknownKeys, filter_key keys,
    filter_key otherKeys, same]
  congr 1
  apply List.flatMap_congr
  intro part _
  rw [issuesUnder_part, issuesUnder_part]
  by_cases own : part.key = key
  · rw [own, lookup_eq_getD, lookup_eq_getD, same]
  · rw [if_neg own, if_neg own]

/-- Of a mapping, the schema tells every offence and nothing else, once at each place and as bad as it
is.  Each issue belongs to a key of the mapping, and those that belong to a key are the same whatever
the other keys hold. -/
theorem each_mistake_told_once {entries : Entries} (lawful : (Value.mapping entries).Lawful)
    (strict : Bool) :
    ((validate (.mapping entries) strict).2.map Issue.place).Nodup ∧
      (∀ issue, issue ∈ (validate (.mapping entries) strict).2 ↔
        Offence (.mapping entries) issue.place issue.problem ∧
          issue.severity = severity strict issue.problem) ∧
      (∀ issue ∈ (validate (.mapping entries) strict).2,
        ∃ key ∈ entries.map Prod.fst, issue.place.head? = some key) ∧
      ∀ others key, (Value.mapping others).Lawful →
        List.lookup key others = List.lookup key entries →
          issuesUnder key (validate (.mapping others) strict).2 =
            issuesUnder key (validate (.mapping entries) strict).2 := by
  refine ⟨nodup_validate strict lawful, fun issue => ?_, fun issue told => ?_,
    fun others key otherwise same => issuesUnder_validate lawful.keys otherwise.keys same⟩
  · rw [mem_validate]
    exact ⟨fun told => ⟨told.offence, told.severity⟩, fun told => ⟨told.1, told.2⟩⟩
  · exact (mem_validate.mp told).offence.exists_key

/-- A mapping with an unknown key, an empty prompt, a number among the commands, and an expectation
without a text to expect. -/
def careless : Entries :=
  [("colour", .text "blue"), ("prompt", .text ""),
    ("commands", .list [.text "hello", .number (.finite 3)]),
    ("expectations", .list [.mapping [("label", .text "Shell loaded")]])]

theorem lawful_careless : (Value.mapping careless).Lawful := by
  refine .mapping (by decide) ?_
  simp only [careless, List.forall_mem_cons]
  refine ⟨.text _, .text _, .list ?_, .list ?_, by simp⟩
  · simp only [List.forall_mem_cons]
    exact ⟨.text _, .number _, by simp⟩
  · simp only [List.forall_mem_cons]
    exact ⟨.mapping (by decide) (by simp [Value.Lawful.text]), by simp⟩

/-- Four mistakes, four issues; without the other keys the one of the commands is still told. -/
theorem each_mistake_told_once_careless :
    (validate (.mapping careless) false).2.map Issue.place =
        [["colour"], ["prompt"], ["commands", "1"], ["expectations", "0", "expected"]] ∧
      Offence (.mapping careless) ["expectations", "0", "expected"] .required ∧
      issuesUnder "commands" (validate (.mapping careless) false).2 =
        [errorAt ["commands", "1"] .notTextItem] := by
  have places : (validate (.mapping careless) false).2.map Issue.place =
      [["colour"], ["prompt"], ["commands", "1"], ["expectations", "0", "expected"]] := by
    decide +kernel
  obtain ⟨-, told, -, alone⟩ := each_mistake_told_once lawful_careless false
  refine ⟨places, ?_, ?_⟩
  · exact ((told (errorAt ["expectations", "0", "expected"] .required)).mp (by decide +kernel)).1
  · have lone : (Value.mapping [("commands",
        .list [.text "hello", .number (.finite 3)])]).Lawful := by
      refine .mapping (by decide) ?_
      simp [Value.Lawful.list, Value.Lawful.text, Value.Lawful.number]
    rw [← alone _ "commands" lone rfl]
    decide +kernel

end Document

end Schema

end ConsoleHarness
