import ConsoleHarness.Proofs.Config.Grammar

/-! # What strictness changes

Strictly or not, a document is read as the same layer and told the same issues; only that unknown
keys are errors then (`Schema.validate_strict`).  They are looked for in the document itself and in
its groups.  The mappings in the list of expectations are read key by key as well, but nobody looks
for unknown keys there: a strict reading passes over them in silence
(`Schema.strictness_misses_entry`).
-/

namespace ConsoleHarness.Schema

variable {value : Value} {place : List String}

/-! ## The same issues, as errors -/

/-- An issue taken as an error. -/
def hardened (issue : Issue) : Issue := { issue with severity := .error }

/-- A part whose issues are told strictly as errors. -/
def Part.Hardens (part : Part place) : Prop :=
  ∀ value, part.issues true value = (part.issues false value).map hardened

theorem hardened_unknownKeys (entries : Entries) (known : List String) :
    unknownKeys entries known place true =
      (unknownKeys entries known place false).map hardened := by
  simp [unknownKeys, hardened]

theorem hardened_mappingIssues {parts : List (Part place)} {refusal : Value → Problem}
    (each : ∀ part ∈ parts, part.Hardens) (value : Value) :
    mappingIssues parts refusal true value =
      (mappingIssues parts refusal false value).map hardened := by
  cases value with
  | mapping entries =>
    simp only [mappingIssues, List.map_append, List.map_flatMap, hardened_unknownKeys]
    congr 1
    exact List.flatMap_congr fun part member => each part member _
  | _ => rfl

/-- Whatever is wrong with a setting is an error anyway. -/
theorem Part.HoldsField.hardens {part : Part place} (holds : part.HoldsField) : part.Hardens := by
  cases holds with
  | setting field here =>
    intro value
    change (field.kind.read value field.place).2 =
      (field.kind.read value field.place).2.map hardened
    refine (List.map_id _).symm.trans (List.map_congr_left fun issue told => ?_)
    obtain ⟨rest, problem, -, rfl⟩ := (mem_read field.kind).mp told
    rfl

theorem Part.Holds.hardens {part : Part []} (holds : part.Holds) : part.Hardens := by
  cases holds with
  | group distinct fields =>
    exact hardened_mappingIssues fun part member => (fields.each part member).hardens
  | field holds => exact holds.hardens

theorem validate_strict (value : Value) :
    (validate value true).2 = (validate value false).2.map hardened := by
  rw [validate_issues, validate_issues]
  exact hardened_mappingIssues (fun part member => (rootParts_hold part member).hardens) value

theorem clean_strict_iff : Clean (validate value true).2 ↔ Accepts value ∧ Known value := by
  rw [accepts_iff, known_iff]
  constructor
  · intro clean
    have sound {place : List String} {problem : Problem} : ¬ Offence value place problem := by
      intro offence
      have mild := clean _ (told_of_offence true offence)
      cases problem <;> cases mild
    exact ⟨fun place problem offence => absurd offence sound, fun place => sound⟩
  · rintro ⟨accepts, known⟩ issue told
    obtain ⟨offence, -⟩ := mem_validate.mp told
    rw [accepts _ _ offence] at offence
    exact absurd offence (known _)

/-! ## What strictness covers -/

/-- Strictly or not, a document is read as the same layer and told the same issues in the same order,
but the warnings, which are those about unknown keys, are errors if it is read strictly.  So a strict
reading finds no error in exactly the documents of the grammar that have known keys only, in the
document itself and in its groups. -/
theorem strictness_covers_groups (value : Value) :
    (validate value true).1 = (validate value false).1 ∧
      (validate value true).2 = (validate value false).2.map hardened ∧
      (∀ issue ∈ (validate value false).2,
        issue.severity = .warning ↔ issue.problem = .unknownKey) ∧
      (Clean (validate value true).2 ↔ Accepts value ∧ Known value) := by
  refine ⟨validate_layer value true false, validate_strict value, fun issue told => ?_,
    clean_strict_iff⟩
  rw [(mem_validate.mp told).severity]
  cases issue.problem <;> simp [severity]

/-- An expectation with a key that the schema does not know. -/
def annotated : Value := .mapping
  [("label", .text "Shell loaded"), ("expected", .text "Welcome"), ("note", .text "slow")]

/-- A strict reading tells nothing of the key, although the expectation is a mapping like the others
and nothing is read from its other keys. -/
theorem strictness_misses_entry :
    Clean (validate (.mapping [("expectations", .list [annotated])]) true).2 ∧
      (validate (.mapping [("expectations", .list [annotated])]) true).1.expectations =
        some [{ label := "Shell loaded", expected := "Welcome" }] ∧
      ¬ annotated.HasOnly ["label", "expected"] := by
  have read : validate (.mapping [("expectations", .list [annotated])]) true =
      ({ expectations := some [{ label := "Shell loaded", expected := "Welcome" }] }, []) := by
    decide +kernel
  rw [read]
  refine ⟨by simp [Clean], rfl, fun known => ?_⟩
  have foreign := known _ rfl "note" (by decide)
  revert foreign
  decide

end ConsoleHarness.Schema
