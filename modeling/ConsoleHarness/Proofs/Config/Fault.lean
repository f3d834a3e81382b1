import Mathlib.Data.List.Nodup
import ConsoleHarness.Proofs.Config.Precedence

/-! # What is wrong with a setting

`Kind.Fault` says, without the readers of the schema, what can be wrong with the value of a setting
and where: at its own place, at an item of it, or at a key of an item.  The readers tell exactly these
faults (`Schema.mem_read`), each at a place of its own (`Schema.nodup_read`).
-/

namespace ConsoleHarness

/-! ## Faults -/

namespace Value

/-- What is wrong with a value where a filled text is asked for. -/
inductive TextFault : Value → Problem → Prop
  | empty : TextFault (.text "") .emptyText
  | foreign {value} (there : value ≠ .null) (other : ∀ text, value ≠ .text text) :
      TextFault value (.notText value.typeName)

/-- What is wrong with a value where a list of texts is asked for. -/
inductive TextsFault : Value → List String → Problem → Prop
  | notList {value} (there : value ≠ .null) (other : ∀ items, value ≠ .list items) :
      TextsFault value [] .notTextList
  | notText {items : List Value} {index : Nat} {item : Value} (here : items[index]? = some item)
      (other : ∀ text, item ≠ .text text) :
      TextsFault (.list items) [toString index] .notTextItem

/-- What is wrong with a value where a duration is asked for. -/
inductive DurationFault : Value → Problem → Prop
  | foreign {value} (there : value ≠ .null) (other : ∀ ms, 0 ≤ ms → value ≠ .number (.finite ms)) :
      DurationFault value .notDuration

/-- What is wrong with a value where a mirror mode is asked for. -/
inductive ModeFault : Value → Problem → Prop
  | notText {value problem} (fault : value.TextFault problem) : ModeFault value problem
  | notMode {name} (filled : name ≠ "") (other : ∀ mode : MirrorMode, mode.text ≠ name) :
      ModeFault (.text name) .notMirrorMode

/-- What is wrong with a value where an expectation is asked for. -/
inductive ExpectationFault : Value → List String → Problem → Prop
  | notMapping {value} (other : ∀ entries, value ≠ .mapping entries) :
      ExpectationFault value [] .notExpectation
  | missing {entries key} (asked : key ∈ ["label", "expected"])
      (gone : Value.lookup key entries = .null) :
      ExpectationFault (.mapping entries) [key] .required
  | notText {entries key problem} (asked : key ∈ ["label", "expected"])
      (fault : (Value.lookup key entries).TextFault problem) :
      ExpectationFault (.mapping entries) [key] problem

/-- What is wrong with a value where expectations are asked for. -/
inductive ExpectationsFault : Value → List String → Problem → Prop
  | notList {value} (there : value ≠ .null) (other : ∀ items, value ≠ .list items) :
      ExpectationsFault value [] .notList
  | empty : ExpectationsFault (.list []) [] .noExpectation
  | item {items : List Value} {index : Nat} {item : Value} {rest problem}
      (here : items[index]? = some item) (fault : item.ExpectationFault rest problem) :
      ExpectationsFault (.list items) (toString index :: rest) problem

end Value

/-- What is wrong with a value where a setting is asked for; `rest` leads from the place of the setting
to the fault. -/
def Kind.Fault {α : Type} (kind : Kind α) (value : Value) (rest : List String)
    (problem : Problem) : Prop :=
  match kind with
  | .text => rest = [] ∧ value.TextFault problem
  | .texts => value.TextsFault rest problem
  | .duration => rest = [] ∧ value.DurationFault problem
  | .mirror => rest = [] ∧ value.ModeFault problem
  | .expectations => value.ExpectationsFault rest problem

theorem Value.TextFault.ne_unknownKey {value : Value} {problem : Problem}
    (fault : value.TextFault problem) : problem ≠ .unknownKey := by
  cases fault <;> simp

theorem Kind.Fault.ne_unknownKey {α : Type} {kind : Kind α} {value : Value} {rest : List String}
    {problem : Problem} (fault : kind.Fault value rest problem) : problem ≠ .unknownKey := by
  cases kind with
  | text => exact fault.2.ne_unknownKey
  | texts => cases fault <;> simp
  | duration =>
    cases fault.2
    simp
  | mirror =>
    cases fault.2 with
    | notText fault => exact fault.ne_unknownKey
    | notMode => simp
  | expectations =>
    cases fault with
    | item _ fault =>
      cases fault with
      | notText _ fault => exact fault.ne_unknownKey
      | _ => simp
    | _ => simp

namespace Schema

variable {α : Type} {value : Value} {place : List String} {issue : Issue}

/-! ## Issues that are found part by part -/

/-- Issues that are found part by part stand at different places, if those of each part do and every
part has a key of its own. -/
theorem nodup_places {ι : Type} {parts : List ι} {issues : ι → List Issue} (place : List String)
    (key : ι → String) (distinct : (parts.map key).Nodup)
    (under : ∀ part ∈ parts, ∀ issue ∈ issues part, place ++ [key part] <+: issue.place)
    (once : ∀ part ∈ parts, ((issues part).map Issue.place).Nodup) :
    ((parts.flatMap issues).map Issue.place).Nodup := by
  rw [List.map_flatMap]
  apply List.pairwise_flatMap.mpr
  refine ⟨once, (List.pairwise_map.mp distinct).imp_of_mem ?_⟩
  intro first second firstIn secondIn differ firstPlace firstAt secondPlace secondAt same
  obtain ⟨one, oneAt, rfl⟩ := List.mem_map.mp firstAt
  obtain ⟨other, otherAt, rfl⟩ := List.mem_map.mp secondAt
  have firstUnder := under first firstIn one oneAt
  rw [same] at firstUnder
  -- Both keys stand behind `place` in the same list.
  have keys := List.prefix_of_prefix_length_le firstUnder (under second secondIn other otherAt)
    (by simp)
  exact differ (by simpa using keys.eq_of_length (by simp))

theorem toString_injective : Function.Injective (toString : Nat → String) := by
  intro i j same
  have digits : Nat.toDigits 10 i = Nat.toDigits 10 j := String.ofList_injective same
  simpa using congrArg (Nat.ofDigitChars 10 · 0) digits

theorem nodup_indices (items : List Value) :
    (items.zipIdx.map fun entry => toString entry.2).Nodup := by
  have numbers : (items.zipIdx.map Prod.snd).Nodup := by
    rw [List.zipIdx_map_snd]
    exact List.nodup_range'
  have texts := numbers.map toString_injective
  rw [List.map_map] at texts
  exact texts

/-! ## Texts, durations and mirror modes -/

theorem mem_readText :
    issue ∈ (readText value place).2 ↔
      ∃ problem, value.TextFault problem ∧ issue = errorAt place problem := by
  constructor
  · intro member
    cases value with
    | null => cases member
    | text text =>
      by_cases filled : text = ""
      · subst filled
        exact ⟨_, .empty, List.mem_singleton.mp member⟩
      · simp [readText, filled] at member
    | _ => exact ⟨_, .foreign (by simp) (by simp), List.mem_singleton.mp member⟩
  · rintro ⟨problem, fault, rfl⟩
    cases fault with
    | empty => simp [readText]
    | foreign there other =>
      cases value with
      | null => contradiction
      | text text => exact absurd rfl (other text)
      | _ => simp [readText]

theorem mem_readDuration :
    issue ∈ (readDuration value place).2 ↔
      ∃ problem, value.DurationFault problem ∧ issue = errorAt place problem := by
  constructor
  · intro member
    unfold readDuration at member
    split at member
    · cases member
    · rename_i ms
      by_cases later : 0 ≤ ms
      · simp [later] at member
      · rw [if_neg later] at member
        refine ⟨_, .foreign (by simp) ?_, List.mem_singleton.mp member⟩
        rintro ms late ⟨⟩
        exact later late
    · rename_i there other
      exact ⟨_, .foreign there fun ms _ => other ms, List.mem_singleton.mp member⟩
  · rintro ⟨problem, fault, rfl⟩
    cases fault with
    | foreign there other =>
      unfold readDuration
      split
      · contradiction
      · rename_i ms
        by_cases later : 0 ≤ ms
        · exact absurd rfl (other ms later)
        · simp [later]
      · simp

theorem readText_filled {text : String} (filled : text ≠ "") :
    readText (.text text) place = (some text, []) := by
  simp [readText, filled]

theorem readMirror_filled {name : String} (filled : name ≠ "") :
    readMirror (.text name) place =
      match MirrorMode.ofText? name with
      | some mode => (some mode, [])
      | none => (none, [errorAt place .notMirrorMode]) := by
  rw [readMirror, readText_filled filled]
  rfl

/-- A value that is no filled text is no mirror mode for that reason alone. -/
theorem readMirror_unfilled (unfilled : ∀ text, text ≠ "" → value ≠ .text text) :
    readMirror value place = (none, (readText value place).2) := by
  cases value with
  | text name =>
    by_cases filled : name = ""
    · subst filled
      rfl
    · exact absurd rfl (unfilled name filled)
  | _ => rfl

theorem mem_readMirror :
    issue ∈ (readMirror value place).2 ↔
      ∃ problem, value.ModeFault problem ∧ issue = errorAt place problem := by
  by_cases unfilled : ∀ text, text ≠ "" → value ≠ .text text
  · rw [readMirror_unfilled unfilled, mem_readText]
    constructor
    · rintro ⟨problem, fault, same⟩
      exact ⟨problem, .notText fault, same⟩
    · rintro ⟨problem, fault, same⟩
      cases fault with
      | notText fault => exact ⟨problem, fault, same⟩
      | notMode filled => exact absurd rfl (unfilled _ filled)
  · push Not at unfilled
    obtain ⟨name, filled, rfl⟩ := unfilled
    rw [readMirror_filled filled]
    constructor
    · intro member
      split at member
      · cases member
      · rename_i unknown
        refine ⟨_, .notMode filled ?_, List.mem_singleton.mp member⟩
        rintro mode rfl
        rw [MirrorMode.ofText?_text] at unknown
        contradiction
    · rintro ⟨problem, fault, rfl⟩
      cases fault with
      | notText fault =>
        cases fault with
        | empty => contradiction
        | foreign there other => exact absurd rfl (other name)
      | notMode filled other =>
        split
        · rename_i mode known
          exact absurd (MirrorMode.text_of_ofText? known) (other mode)
        · exact List.mem_singleton.mpr rfl

/-! ## Lists -/

theorem readItems_issues (index : Nat) (items : List Value) :
    (readItems place index items).2 = (items.zipIdx index).flatMap fun entry =>
      match entry.1 with
      | .text _ => []
      | _ => [errorAt (place ++ [toString entry.2]) .notTextItem] := by
  induction items generalizing index with
  | nil => rfl
  | cons item rest ih =>
    rw [List.zipIdx_cons, List.flatMap_cons, ← ih (index + 1)]
    cases item <;> rfl

theorem readEntries_issues (index : Nat) (items : List Value) :
    (readEntries place index items).2 = (items.zipIdx index).flatMap fun entry =>
      (readExpectation entry.1 (place ++ [toString entry.2])).2 := by
  induction items generalizing index with
  | nil => rfl
  | cons item rest ih =>
    rw [List.zipIdx_cons, List.flatMap_cons, ← ih (index + 1)]
    rfl

theorem mem_readTextList :
    issue ∈ (readTextList value place).2 ↔
      ∃ rest problem, value.TextsFault rest problem ∧ issue = errorAt (place ++ rest) problem := by
  constructor
  · intro member
    cases value with
    | null => cases member
    | list items =>
      change issue ∈ (readItems place 0 items).2 at member
      rw [readItems_issues] at member
      obtain ⟨⟨item, index⟩, here, told⟩ := List.mem_flatMap.mp member
      dsimp only at told
      split at told
      · cases told
      · rename_i other
        exact ⟨_, _, .notText (List.mk_mem_zipIdx_iff_getElem?.mp here) other,
          List.mem_singleton.mp told⟩
    | _ =>
      refine ⟨[], _, .notList (by simp) (by simp), ?_⟩
      rw [List.append_nil]
      exact List.mem_singleton.mp member
  · rintro ⟨rest, problem, fault, rfl⟩
    cases fault with
    | notList there other =>
      cases value with
      | null => contradiction
      | list items => exact absurd rfl (other items)
      | _ => simp [readTextList]
    | notText here other =>
      rename_i items index item
      change _ ∈ (readItems place 0 items).2
      rw [readItems_issues]
      refine List.mem_flatMap.mpr ⟨(item, index), List.mk_mem_zipIdx_iff_getElem?.mpr here, ?_⟩
      dsimp only
      split
      · rename_i text
        exact absurd rfl (other text)
      · exact List.mem_singleton.mpr rfl

theorem mem_requireValue :
    issue ∈ requireValue value place ↔ value = .null ∧ issue = errorAt place .required := by
  cases value <;> simp [requireValue, Value.isNull]

theorem readExpectation_issues (entries : Entries) :
    (readExpectation (.mapping entries) place).2 =
      (readText (Value.lookup "label" entries) (place ++ ["label"])).2 ++
        (readText (Value.lookup "expected" entries) (place ++ ["expected"])).2 ++
        requireValue (Value.lookup "label" entries) (place ++ ["label"]) ++
        requireValue (Value.lookup "expected" entries) (place ++ ["expected"]) := by
  unfold readExpectation
  dsimp only
  split <;> rfl

/-- An expectation is read in two passes over its keys; the issues are those of one pass. -/
theorem readExpectation_perm (entries : Entries) :
    (readExpectation (.mapping entries) place).2.Perm (["label", "expected"].flatMap fun key =>
      (readText (Value.lookup key entries) (place ++ [key])).2 ++
        requireValue (Value.lookup key entries) (place ++ [key])) := by
  rw [readExpectation_issues, List.perm_iff_count]
  intro issue
  simp only [List.flatMap_cons, List.flatMap_nil, List.append_nil, List.count_append]
  omega

theorem mem_readExpectation :
    issue ∈ (readExpectation value place).2 ↔
      ∃ rest problem, value.ExpectationFault rest problem ∧
        issue = errorAt (place ++ rest) problem := by
  constructor
  · intro member
    cases value with
    | mapping entries =>
      have keyed := (readExpectation_perm entries).mem_iff.mp member
      obtain ⟨key, asked, told⟩ := List.mem_flatMap.mp keyed
      cases List.mem_append.mp told with
      | inl told =>
        obtain ⟨problem, fault, same⟩ := mem_readText.mp told
        exact ⟨_, problem, .notText asked fault, same⟩
      | inr told =>
        obtain ⟨gone, same⟩ := mem_requireValue.mp told
        exact ⟨_, _, .missing asked gone, same⟩
    | _ =>
      refine ⟨[], _, .notMapping (by simp), ?_⟩
      rw [List.append_nil]
      exact List.mem_singleton.mp member
  · rintro ⟨rest, problem, fault, rfl⟩
    cases fault with
    | notMapping other =>
      cases value with
      | mapping entries => exact absurd rfl (other entries)
      | _ => simp [readExpectation]
    | missing asked gone =>
      apply (readExpectation_perm _).mem_iff.mpr
      apply List.mem_flatMap_of_mem asked
      exact List.mem_append_right _ (mem_requireValue.mpr ⟨gone, rfl⟩)
    | notText asked fault =>
      apply (readExpectation_perm _).mem_iff.mpr
      apply List.mem_flatMap_of_mem asked
      exact List.mem_append_left _ (mem_readText.mpr ⟨_, fault, rfl⟩)

theorem mem_readExpectations :
    issue ∈ (readExpectations value place).2 ↔
      ∃ rest problem, value.ExpectationsFault rest problem ∧
        issue = errorAt (place ++ rest) problem := by
  constructor
  · intro member
    cases value with
    | null => cases member
    | list items =>
      cases items with
      | nil =>
        refine ⟨[], _, .empty, ?_⟩
        rw [List.append_nil]
        exact List.mem_singleton.mp member
      | cons first others =>
        change issue ∈ (readEntries place 0 (first :: others)).2 at member
        rw [readEntries_issues] at member
        obtain ⟨⟨item, index⟩, here, told⟩ := List.mem_flatMap.mp member
        obtain ⟨rest, problem, fault, same⟩ := mem_readExpectation.mp told
        refine ⟨_, problem, .item (List.mk_mem_zipIdx_iff_getElem?.mp here) fault, ?_⟩
        rw [same, List.append_assoc]
        rfl
    | _ =>
      refine ⟨[], _, .notList (by simp) (by simp), ?_⟩
      rw [List.append_nil]
      exact List.mem_singleton.mp member
  · rintro ⟨rest, problem, fault, rfl⟩
    cases fault with
    | notList there other =>
      cases value with
      | null => contradiction
      | list items => exact absurd rfl (other items)
      | _ => simp [readExpectations]
    | empty => simp [readExpectations]
    | item here fault =>
      rename_i items index item rest
      cases items with
      | nil => simp at here
      | cons first others =>
        change _ ∈ (readEntries place 0 (first :: others)).2
        rw [readEntries_issues]
        refine List.mem_flatMap.mpr
          ⟨(item, index), List.mk_mem_zipIdx_iff_getElem?.mpr here, ?_⟩
        refine mem_readExpectation.mpr ⟨rest, problem, fault, ?_⟩
        rw [List.append_assoc]
        rfl

/-! ## Every kind of setting -/

/-- What is told of the value of a setting is what is wrong with it. -/
theorem mem_read (kind : Kind α) :
    issue ∈ (kind.read value place).2 ↔
      ∃ rest problem, kind.Fault value rest problem ∧ issue = errorAt (place ++ rest) problem := by
  have here {fault : Problem → Prop} :
      (∃ problem, fault problem ∧ issue = errorAt place problem) ↔
        ∃ rest problem, (rest = [] ∧ fault problem) ∧ issue = errorAt (place ++ rest) problem := by
    constructor
    · rintro ⟨problem, fault, same⟩
      exact ⟨[], problem, ⟨rfl, fault⟩, by rw [same, List.append_nil]⟩
    · rintro ⟨rest, problem, ⟨rfl, fault⟩, same⟩
      exact ⟨problem, fault, by rw [same, List.append_nil]⟩
  cases kind with
  | text => exact mem_readText.trans here
  | texts => exact mem_readTextList
  | duration => exact mem_readDuration.trans here
  | mirror => exact mem_readMirror.trans here
  | expectations => exact mem_readExpectations

/-- Nothing is wrong where nothing is. -/
theorem ne_null_of_fault {kind : Kind α} {rest : List String} {problem : Problem}
    (fault : kind.Fault value rest problem) : value ≠ .null := by
  rintro rfl
  have told : errorAt rest problem ∈ (kind.read .null []).2 :=
    (mem_read kind).mpr ⟨rest, problem, fault, rfl⟩
  rw [read_null] at told
  cases told

theorem under_read (kind : Kind α) (told : issue ∈ (kind.read value place).2) :
    place <+: issue.place := by
  obtain ⟨rest, problem, -, rfl⟩ := (mem_read kind).mp told
  exact List.prefix_append place rest

/-! ## No place is told twice -/

theorem readText_places :
    List.Sublist (((readText value place).2 ++ requireValue value place).map Issue.place)
      [place] := by
  cases value with
  | text text =>
    by_cases filled : text = "" <;>
      simp [readText, requireValue, filled, errorAt, Value.isNull]
  | _ => simp [readText, requireValue, errorAt, Value.isNull]

theorem nodup_readExpectation : ((readExpectation value place).2.map Issue.place).Nodup := by
  cases value with
  | mapping entries =>
    apply ((readExpectation_perm entries).map Issue.place).nodup_iff.mpr
    refine nodup_places place id (by simp) ?_ ?_
    · intro key asked issue told
      cases List.mem_append.mp told with
      | inl told =>
        obtain ⟨problem, -, rfl⟩ := mem_readText.mp told
        exact List.prefix_rfl
      | inr told =>
        rw [(mem_requireValue.mp told).2]
        exact List.prefix_rfl
    · intro key asked
      exact readText_places.nodup (by simp)
  | _ => simp [readExpectation]

theorem nodup_readText : ((readText value place).2.map Issue.place).Nodup := by
  have part := (List.sublist_append_left (readText value place).2 (requireValue value place)).map
    Issue.place
  exact (part.trans readText_places).nodup (by simp)

theorem nodup_readMirror : ((readMirror value place).2.map Issue.place).Nodup := by
  by_cases unfilled : ∀ text, text ≠ "" → value ≠ .text text
  · rw [readMirror_unfilled unfilled]
    exact nodup_readText
  · push Not at unfilled
    obtain ⟨name, filled, rfl⟩ := unfilled
    rw [readMirror_filled filled]
    split <;> simp

theorem nodup_readTextList : ((readTextList value place).2.map Issue.place).Nodup := by
  cases value with
  | list items =>
    change ((readItems place 0 items).2.map Issue.place).Nodup
    rw [readItems_issues]
    apply nodup_places place (fun entry => toString entry.2) (nodup_indices items)
    · intro entry here issue told
      split at told
      · cases told
      · rw [List.mem_singleton.mp told]
        exact List.prefix_rfl
    · intro entry here
      split <;> simp
  | _ => simp [readTextList]

theorem nodup_readExpectations : ((readExpectations value place).2.map Issue.place).Nodup := by
  cases value with
  | list items =>
    cases items with
    | nil => simp [readExpectations]
    | cons first others =>
      change ((readEntries place 0 (first :: others)).2.map Issue.place).Nodup
      rw [readEntries_issues]
      apply nodup_places place (fun entry => toString entry.2) (nodup_indices (first :: others))
      · intro entry here issue told
        obtain ⟨rest, problem, -, rfl⟩ := mem_readExpectation.mp told
        exact List.prefix_append _ rest
      · intro entry here
        exact nodup_readExpectation
  | _ => simp [readExpectations]

/-- The issues of a setting stand at different places. -/
theorem nodup_read (kind : Kind α) : ((kind.read value place).2.map Issue.place).Nodup := by
  cases kind with
  | text => exact nodup_readText
  | texts => exact nodup_readTextList
  | duration =>
    change ((readDuration value place).2.map Issue.place).Nodup
    unfold readDuration
    split
    · simp
    · split <;> simp
    · simp
  | mirror => exact nodup_readMirror
  | expectations => exact nodup_readExpectations

end Schema

end ConsoleHarness
