import Mathlib.Data.List.Infix
import ConsoleHarness.Text.Pattern

/-! # Patterns and cuts

The matches of a pattern can be removed from the parts of a text one by one if no match reaches
across a cut (`Pattern.remove_append`).  It takes a pattern that looks at nothing but the part that
it matches (`Pattern.Local`).

If also whatever a match has behind a cut stays in the text there (`Pattern.TailsStay`), a match
that is cut in two always shows.
-/

namespace ConsoleHarness.Text.Pattern

variable {p : Pattern}

theorem remove_of_some {cs left : List Char} (taken : p.behind? cs = some left) :
    p.remove cs = p.remove left := by
  cases cs with
  | nil =>
    have shorter := p.shorter taken
    contradiction
  | cons c rest =>
    rw [remove]
    split <;> rename_i other
    · rw [Option.some.inj (other.symm.trans taken)]
    · rw [other] at taken
      contradiction

theorem remove_of_none {c : Char} {rest : List Char} (free : p.behind? (c :: rest) = none) :
    p.remove (c :: rest) = c :: p.remove rest := by
  rw [remove]
  split <;> rename_i other
  · rw [other] at free
    contradiction
  · rfl

/-- A match starts where it is looked for.  If there is none in a text there is none in any start of
the text, and one that ends before a cut is the same in front of the cut.

A regular expression is local if it has no anchors and does not look around. -/
structure Local (p : Pattern) : Prop where
  takes : ∀ {cs left}, p.behind? cs = some left → left <:+ cs
  fails : ∀ {cs more}, p.behind? (cs ++ more) = none → p.behind? cs = none
  stops : ∀ {cs more left}, p.behind? (cs ++ more) = some left →
    (∃ rest, left = rest ++ more ∧ p.behind? cs = some rest) ∨ left.length < more.length

/-- What a match has behind a cut stays in the text there. -/
def TailsStay (p : Pattern) : Prop :=
  ∀ {front part left : List Char}, front ≠ [] → p.behind? (front ++ part ++ left) = some left →
    p.remove (part ++ left) = part ++ p.remove left

theorem sublist_remove (sees : p.Local) (cs : List Char) : (p.remove cs).Sublist cs := by
  induction size : cs.length using Nat.strong_induction_on generalizing cs with
  | _ size ih =>
    subst size
    cases cs with
    | nil => simp [remove]
    | cons c rest =>
      cases taken : p.behind? (c :: rest) with
      | none =>
        rw [remove_of_none taken]
        exact (ih rest.length (by simp) rest rfl).cons_cons c
      | some left =>
        rw [remove_of_some taken]
        exact (ih left.length (p.shorter taken) left rfl).trans (sees.takes taken).sublist

/-! ## Going through a text -/

/-- Going through a text match by match and character by character, one comes to the given end of
the text. -/
inductive Reaches (p : Pattern) : List Char → List Char → Prop
  | here {cs} : Reaches p cs cs
  | found {cs left rest} (taken : p.behind? cs = some left) (onward : Reaches p left rest) :
      Reaches p cs rest
  | character {c cs rest} (free : p.behind? (c :: cs) = none) (onward : Reaches p cs rest) :
      Reaches p (c :: cs) rest

namespace Reaches

theorem length_le {cs rest : List Char} (reaches : p.Reaches cs rest) :
    rest.length ≤ cs.length := by
  induction reaches with
  | here => exact Nat.le_refl _
  | found taken _ ih => exact Nat.le_trans ih (Nat.le_of_lt (p.shorter taken))
  | character _ _ ih => exact Nat.le_succ_of_le ih

theorem of_some {cs left rest : List Char} (taken : p.behind? cs = some left)
    (behind : rest.length < cs.length) : p.Reaches cs rest ↔ p.Reaches left rest := by
  refine ⟨fun reaches => ?_, .found taken⟩
  cases reaches with
  | here => omega
  | found other onward => rwa [← Option.some.inj (other.symm.trans taken)]
  | character free =>
    rw [free] at taken
    contradiction

theorem of_none {c : Char} {cs rest : List Char} (free : p.behind? (c :: cs) = none)
    (behind : rest.length ≤ cs.length) : p.Reaches (c :: cs) rest ↔ p.Reaches cs rest := by
  refine ⟨fun reaches => ?_, .character free⟩
  cases reaches with
  | here => exact absurd behind (by simp)
  | found taken =>
    rw [free] at taken
    contradiction
  | character _ onward => exact onward

theorem trans {a b c : List Char} (first : p.Reaches a b) (second : p.Reaches b c) :
    p.Reaches a c := by
  induction first with
  | here => exact second
  | found taken _ ih => exact .found taken (ih second)
  | character free _ ih => exact .character free (ih second)

/-- There is one way through a text. -/
theorem onward {cs rest last : List Char} (first : p.Reaches cs rest)
    (second : p.Reaches cs last) (later : last.length ≤ rest.length) : p.Reaches rest last := by
  -- The second way ends behind the first one, so it takes the same steps up to there.
  induction first with
  | here => exact second
  | found taken onward ih =>
    have far := onward.length_le
    have shorter := p.shorter taken
    exact ih ((of_some taken (by omega)).mp second) later
  | character free onward ih =>
    have far := onward.length_le
    exact ih ((of_none free (by omega)).mp second) later

end Reaches

/-! ## One cut -/

/-- If no match reaches across a cut, the matches can be removed from the two parts one by one.  If
one does and tails stay, less is removed from the parts than from the whole. -/
theorem remove_append (sees : p.Local) (front behind : List Char) :
    p.Reaches (front ++ behind) behind ∧
        p.remove (front ++ behind) = p.remove front ++ p.remove behind ∨
      ¬ p.Reaches (front ++ behind) behind ∧ (p.TailsStay →
        (p.remove (front ++ behind)).length <
          (p.remove front).length + (p.remove behind).length) := by
  induction size : front.length using Nat.strong_induction_on generalizing front with
  | _ size ih =>
    subst size
    cases front with
    | nil => exact .inl ⟨.here, by simp [remove]⟩
    | cons c rest =>
      have inside : behind.length < (c :: rest ++ behind).length := by
        rw [List.length_append, List.length_cons]
        omega
      cases taken : p.behind? (c :: rest ++ behind) with
      | none =>
        have free := sees.fails taken
        rw [List.cons_append] at taken ⊢
        rw [Reaches.of_none taken (by simp), remove_of_none taken, remove_of_none free]
        obtain ⟨reaches, same⟩ | ⟨missed, less⟩ := ih rest.length (by simp) rest rfl
        · exact .inl ⟨reaches, by rw [same]; rfl⟩
        · refine .inr ⟨missed, fun stays => ?_⟩
          have shorter := less stays
          rw [List.length_cons, List.length_cons]
          omega
      | some left =>
        rw [Reaches.of_some taken inside, remove_of_some taken]
        obtain ⟨shorter, rfl, here⟩ | beyond := sees.stops taken
        · rw [remove_of_some here]
          exact ih shorter.length (p.shorter here) shorter rfl
        · -- The match ends behind the cut, and what it has there stays in the second part.
          refine .inr ⟨fun reaches => ?_, fun stays => ?_⟩
          · have far := reaches.length_le
            omega
          · obtain ⟨middle, rfl⟩ : left <:+ behind :=
              List.suffix_of_suffix_length_le (sees.takes taken) (List.suffix_append _ _)
                (Nat.le_of_lt beyond)
            rw [← List.append_assoc] at taken
            rw [stays (List.cons_ne_nil c rest) taken]
            simp only [List.length_append] at beyond ⊢
            omega

/-! ## Many cuts -/

/-- Each cut between two units is a place that one comes to when one goes through the whole text
match by match. -/
def CutBetween (p : Pattern) (units : List String) : Prop :=
  ∀ front behind, units = front ++ behind →
    p.Reaches (String.join units).toList (String.join behind).toList

theorem cutBetween_nil : p.CutBetween [] := by
  intro front behind same
  obtain ⟨rfl, rfl⟩ := List.append_eq_nil_iff.mp same.symm
  exact .here

theorem cutBetween_cons {unit : String} {rest : List String} :
    p.CutBetween (unit :: rest) ↔
      p.Reaches (String.join (unit :: rest)).toList (String.join rest).toList ∧
        p.CutBetween rest := by
  constructor
  · intro cut
    have first := cut [unit] rest rfl
    refine ⟨first, fun front behind same => ?_⟩
    have second := cut (unit :: front) behind (by rw [same]; rfl)
    refine first.onward second ?_
    rw [same, String.join_append, String.toList_append, List.length_append]
    omega
  · rintro ⟨first, others⟩ front behind same
    cases front with
    | nil =>
      rw [List.nil_append] at same
      rw [same]
      exact .here
    | cons other more =>
      exact first.trans (others more behind (List.cons.inj same).2)

theorem remove_units (sees : p.Local) (units : List String) :
    p.CutBetween units ∧ p.remove (String.join units).toList =
        (units.map fun unit => p.remove unit.toList).flatten ∨
      ¬ p.CutBetween units ∧ (p.TailsStay → (p.remove (String.join units).toList).length <
        (units.map fun unit => p.remove unit.toList).flatten.length) := by
  induction units with
  | nil => exact .inl ⟨cutBetween_nil, by simp [remove]⟩
  | cons unit rest ih =>
    have joined :
        (String.join (unit :: rest)).toList = unit.toList ++ (String.join rest).toList := by
      rw [String.join_cons, String.toList_append]
    rw [cutBetween_cons, joined, List.map_cons, List.flatten_cons, List.length_append]
    -- The first cut and the others add up: one that is not clean is enough for more to be left.
    obtain ⟨reaches, first⟩ | ⟨crossed, first⟩ :=
        remove_append sees unit.toList (String.join rest).toList <;>
      obtain ⟨cut, others⟩ | ⟨inside, others⟩ := ih
    · exact .inl ⟨⟨reaches, cut⟩, by rw [first, others]⟩
    · refine .inr ⟨fun both => inside both.2, fun stays => ?_⟩
      have more := others stays
      rw [first, List.length_append]
      omega
    · exact .inr ⟨fun both => crossed both.1, fun stays => by rw [← others]; exact first stays⟩
    · refine .inr ⟨fun both => crossed both.1, fun stays => ?_⟩
      have one := first stays
      have more := others stays
      omega

/-! ## Texts that are left alone -/

/-- The matches of a pattern are removed from a text in which one of some characters is found.  A
text with none of them is left alone.  If any character will do, every leftmost match of any text is
removed (`removedBy_any`). -/
def RemovedBy (p : Pattern) (lookedFor : Char → Bool) (strip : String → String) : Prop :=
  ∀ text, (strip text).toList =
    if text.toList.any lookedFor = true then p.remove text.toList else text.toList

theorem removedBy_any {strip : String → String} :
    p.RemovedBy (fun _ => true) strip ↔ ∀ text, (strip text).toList = p.remove text.toList := by
  refine forall_congr' fun text => ?_
  cases same : text.toList with
  | nil => simp [remove]
  | cons => simp

/-- If one of the characters is found in the whole text, it was cut between matches only, and a unit
that is left alone has none. -/
def CleanlyCut (p : Pattern) (lookedFor : Char → Bool) (units : List String) : Prop :=
  (String.join units).toList.any lookedFor = true →
    p.CutBetween units ∧
      ∀ unit ∈ units, unit.toList.any lookedFor = false → p.remove unit.toList = unit.toList

section Removed

variable {lookedFor : Char → Bool} {strip : String → String}

theorem RemovedBy.eq_self (removes : p.RemovedBy lookedFor strip) {text : String}
    (free : p.remove text.toList = text.toList) : strip text = text := by
  rw [← String.toList_inj, removes, free, ite_self]

theorem RemovedBy.eq_empty (removes : p.RemovedBy lookedFor strip) {text : String}
    (whole : p.behind? text.toList = some []) (found : text.toList.any lookedFor = true) :
    strip text = "" := by
  rw [← String.toList_inj, removes, if_pos found, remove_of_some whole, remove]
  rfl

/-- A unit that is left alone keeps the matches in it. -/
theorem strip_units (removes : p.RemovedBy lookedFor strip) (sees : p.Local)
    (units : List String) :
    (∀ unit ∈ units, unit.toList.any lookedFor = false → p.remove unit.toList = unit.toList) ∧
        (units.map fun unit => (strip unit).toList).flatten =
          (units.map fun unit => p.remove unit.toList).flatten ∨
      ¬ (∀ unit ∈ units, unit.toList.any lookedFor = false →
          p.remove unit.toList = unit.toList) ∧
        (units.map fun unit => p.remove unit.toList).flatten.length <
          (units.map fun unit => (strip unit).toList).flatten.length := by
  induction units with
  | nil => exact .inl ⟨by simp, rfl⟩
  | cons unit rest ih =>
    rw [List.forall_mem_cons]
    simp only [List.map_cons, List.flatten_cons, List.length_append, removes unit]
    have shorter := (sublist_remove sees unit.toList).length_le
    by_cases alone : unit.toList.any lookedFor = true
    · rw [if_pos alone]
      obtain ⟨free, others⟩ | ⟨taken, others⟩ := ih
      · exact .inl ⟨⟨by simp [alone], free⟩, by rw [others]⟩
      · exact .inr ⟨fun both => taken both.2, by omega⟩
    · -- The unit is left alone, which makes a difference only if there is a match in it.
      rw [if_neg alone]
      by_cases same : p.remove unit.toList = unit.toList
      · obtain ⟨free, others⟩ | ⟨taken, others⟩ := ih
        · exact .inl ⟨⟨fun _ => same, free⟩, by rw [same, others]⟩
        · exact .inr ⟨fun both => taken both.2, by omega⟩
      · have less : (p.remove unit.toList).length < unit.toList.length :=
          Nat.lt_of_le_of_ne shorter
            fun long => same ((sublist_remove sees unit.toList).eq_of_length long)
        refine .inr ⟨fun both => same (both.1 (by simpa using alone)), ?_⟩
        obtain ⟨-, others⟩ | ⟨-, others⟩ := ih
        · rw [others]
          omega
        · omega

theorem any_join (units : List String) :
    (String.join units).toList.any lookedFor = units.any fun unit => unit.toList.any lookedFor := by
  induction units with
  | nil => rfl
  | cons unit rest ih =>
    rw [List.any_cons, ← ih, String.join_cons, String.toList_append, List.any_append]

/-- Units that are stripped one by one give the stripped text if they are cleanly cut; otherwise
they give more, if tails stay. -/
theorem RemovedBy.units (removes : p.RemovedBy lookedFor strip) (sees : p.Local)
    (units : List String) :
    p.CleanlyCut lookedFor units ∧
        String.join (units.map strip) = strip (String.join units) ∨
      ¬ p.CleanlyCut lookedFor units ∧ (p.TailsStay →
        (strip (String.join units)).length < (String.join (units.map strip)).length) := by
  have joined : (String.join (units.map strip)).toList =
      (units.map fun unit => (strip unit).toList).flatten := by
    rw [String.toList_join, List.flatMap_def, List.map_map]
    rfl
  rw [← String.toList_inj, ← String.length_toList, ← String.length_toList, joined,
    removes (String.join units), CleanlyCut, any_join]
  by_cases possible : units.any (fun unit => unit.toList.any lookedFor) = true
  · simp only [possible, forall_const, if_true]
    -- Both ways of falling short leave more than the whole would, so they cannot make up for it.
    obtain ⟨free, same⟩ | ⟨taken, more⟩ := strip_units removes sees units <;>
      obtain ⟨cut, whole⟩ | ⟨inside, less⟩ := remove_units sees units
    · exact .inl ⟨⟨cut, free⟩, by rw [same, whole]⟩
    · exact .inr ⟨fun both => inside both.1, fun stays => by rw [same]; exact less stays⟩
    · exact .inr ⟨fun both => taken both.2, fun _ => by rw [whole]; exact more⟩
    · exact .inr ⟨fun both => inside both.1, fun stays => (less stays).trans more⟩
  · rw [if_neg possible]
    refine .inl ⟨fun held => absurd held possible, ?_⟩
    -- No unit can hold a match, so each is left as it is.
    simp only [List.any_eq_true, not_exists, not_and] at possible
    have alone : ∀ unit ∈ units, (strip unit).toList = unit.toList := fun unit member => by
      rw [removes, if_neg (by simpa using possible unit member)]
    rw [List.map_congr_left alone, String.toList_join, List.flatMap_def]

end Removed

end ConsoleHarness.Text.Pattern
