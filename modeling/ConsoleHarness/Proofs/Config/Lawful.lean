import Mathlib.Tactic.ByContra
import ConsoleHarness.Config.Value

/-! # Mappings that have each key once

A value is lawful if no mapping in it has a key twice.  Values that are made by setting the keys of
mappings one after the other are (`Value.lawful_ofEntries`): such a mapping is in enumeration order,
and in that order a key is found before a place is found for it.
-/

namespace ConsoleHarness

namespace Value

/-- In every mapping of the value, each key stands once. -/
inductive Lawful : Value → Prop
  | null : Lawful .null
  | flag (value) : Lawful (.flag value)
  | number (value) : Lawful (.number value)
  | text (value) : Lawful (.text value)
  | list {items : List Value} (each : ∀ item ∈ items, Lawful item) : Lawful (.list items)
  | mapping {entries : List (String × Value)} (keys : (entries.map Prod.fst).Nodup)
      (each : ∀ entry ∈ entries, Lawful entry.2) : Lawful (.mapping entries)

theorem Lawful.keys {entries : List (String × Value)} (lawful : (Value.mapping entries).Lawful) :
    (entries.map Prod.fst).Nodup := by
  cases lawful with
  | mapping keys => exact keys

theorem lawful_lookup {entries : List (String × Value)}
    (each : ∀ entry ∈ entries, Lawful entry.2) (key : String) : (lookup key entries).Lawful := by
  induction entries with
  | nil => exact .null
  | cons entry rest ih =>
    rw [lookup_cons]
    split
    · exact each entry List.mem_cons_self
    · exact ih fun entry member => each entry (List.mem_cons_of_mem _ member)

theorem Lawful.lookup {entries : List (String × Value)} (lawful : (Value.mapping entries).Lawful)
    (key : String) : (Value.lookup key entries).Lawful := by
  cases lawful with
  | mapping _ each => exact lawful_lookup each key

/-! ## Enumeration order -/

/-- Entries in enumeration order: each key once, and none behind a key that it precedes. -/
def Enumerated (entries : List (String × Value)) : Prop :=
  entries.Pairwise fun first second => first.1 ≠ second.1 ∧ precedes second.1 first.1 = false

theorem precedes_asymm {key other : String} (before : precedes key other = true) :
    key ≠ other ∧ precedes other key = false := by
  constructor
  · rintro rfl
    cases index : index? key <;> simp [precedes, index] at before
  · cases first : index? key <;> cases second : index? other <;>
      simp [precedes, first, second] at before ⊢
    omega

theorem precedes_trans {key other last : String} (before : precedes key other = true)
    (behind : precedes other last = true) : precedes key last = true := by
  cases first : index? key <;> cases second : index? other <;> cases third : index? last <;>
    simp [precedes, first, second, third] at before behind ⊢
  omega

theorem mem_insertEntry {key : String} {value : Value} {entries : List (String × Value)}
    {entry : String × Value} (member : entry ∈ insertEntry key value entries) :
    entry = (key, value) ∨ entry ∈ entries := by
  induction entries with
  | nil => exact .inl (List.mem_singleton.mp member)
  | cons first rest ih =>
    obtain ⟨other, old⟩ := first
    rw [insertEntry] at member
    split at member
    · cases List.mem_cons.mp member with
      | inl same => exact .inl same
      | inr later => exact .inr (List.mem_cons_of_mem _ later)
    · split at member
      · exact List.mem_cons.mp member
      · cases List.mem_cons.mp member with
        | inl same => exact .inr (List.mem_cons.mpr (.inl same))
        | inr later => exact (ih later).imp_right (List.mem_cons_of_mem _)

theorem Enumerated.insertEntry {key : String} {value : Value} {entries : List (String × Value)}
    (enumerated : Enumerated entries) : Enumerated (insertEntry key value entries) := by
  induction entries with
  | nil => exact List.pairwise_singleton _ _
  | cons first rest ih =>
    obtain ⟨other, old⟩ := first
    obtain ⟨ahead, behind⟩ := List.pairwise_cons.mp enumerated
    rw [Value.insertEntry]
    by_cases same : key = other
    · subst same
      rw [if_pos rfl]
      exact List.pairwise_cons.mpr ⟨ahead, behind⟩
    · rw [if_neg same]
      by_cases before : precedes key other = true
      · rw [if_pos before]
        refine List.pairwise_cons.mpr ⟨?_, enumerated⟩
        intro entry member
        cases List.mem_cons.mp member with
        | inl here =>
          subst here
          exact precedes_asymm before
        | inr later =>
          -- A later key does not precede `other`, so it is not `key`, and does not precede it.
          have sorted := (ahead entry later).2
          constructor
          · rintro rfl
            rw [before] at sorted
            contradiction
          · by_contra earlier
            rw [precedes_trans (by simpa using earlier) before] at sorted
            contradiction
      · rw [if_neg before]
        refine List.pairwise_cons.mpr ⟨?_, ih behind⟩
        intro entry member
        cases mem_insertEntry member with
        | inl here =>
          subst here
          exact ⟨Ne.symm same, by simpa using before⟩
        | inr later => exact ahead entry later

/-- Setting keys one after the other makes a lawful mapping of lawful values. -/
theorem lawful_ofEntries {entries : List (String × Value)}
    (each : ∀ entry ∈ entries, entry.2.Lawful) : (ofEntries entries).Lawful := by
  have built := List.foldlRecOn
    (motive := fun done => Enumerated done ∧ ∀ entry ∈ done, entry.2.Lawful) entries
    (fun done entry => insertEntry entry.1 entry.2 done) ⟨.nil, by simp⟩
  obtain ⟨enumerated, lawful⟩ := built fun done ⟨enumerated, lawful⟩ entry member => by
    refine ⟨enumerated.insertEntry, fun other there => ?_⟩
    cases mem_insertEntry there with
    | inl here =>
      subst here
      exact each entry member
    | inr before => exact lawful other before
  exact .mapping (List.pairwise_map.mpr (enumerated.imp And.left)) lawful

end Value

end ConsoleHarness
