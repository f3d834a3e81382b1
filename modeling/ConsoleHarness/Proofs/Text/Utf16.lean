import Mathlib.Data.List.Infix

/-! # The 16-bit units of a text

A text may just as well be searched among its 16-bit units.  It makes no difference
(`utf16_isInfix_iff`): no character opens with the second unit of a pair, so a hit among the units
starts where a character does, and from there on the units spell the characters.
-/

namespace ConsoleHarness.Text

/-- The units of a character: itself, or a pair if it lies outside the basic plane. -/
def codeUnits (c : Char) : List Nat :=
  if c.toNat < 0x10000 then [c.toNat]
  else [0xD800 + (c.toNat - 0x10000) / 0x400, 0xDC00 + (c.toNat - 0x10000) % 0x400]

/-- The units of a text. -/
def utf16 (text : List Char) : List Nat := text.flatMap codeUnits

@[simp] theorem utf16_nil : utf16 [] = [] := rfl

@[simp] theorem utf16_cons (c : Char) (rest : List Char) :
    utf16 (c :: rest) = codeUnits c ++ utf16 rest := rfl

@[simp] theorem utf16_append (a b : List Char) : utf16 (a ++ b) = utf16 a ++ utf16 b :=
  List.flatMap_append

example : utf16 ['a', '😀'] = [0x61, 0xD83D, 0xDE00] := by decide

/-! ## Where characters start -/

/-- The second unit of a pair. -/
def IsTrailing (unit : Nat) : Prop := 0xDC00 ≤ unit ∧ unit < 0xE000

/-- The units of a character: one that is no half of a pair, or both halves of one. -/
inductive Spelling (c : Char) : List Nat → Prop
  | single (unit : Nat) (number : c.toNat = unit) (whole : unit < 0xD800 ∨ 0xDFFF < unit) :
      Spelling c [unit]
  | pair (high low : Nat) (leading : 0xD800 ≤ high ∧ high < 0xDC00) (trailing : IsTrailing low)
      (number : c.toNat = 0x10000 + (high - 0xD800) * 0x400 + (low - 0xDC00)) :
      Spelling c [high, low]

theorem spelling (c : Char) : Spelling c (codeUnits c) := by
  have valid : c.toNat < 0xD800 ∨ (0xDFFF < c.toNat ∧ c.toNat < 0x110000) := c.valid
  unfold codeUnits
  split
  · exact .single _ rfl (by omega)
  · exact .pair _ _ (by omega) (by unfold IsTrailing; omega) (by omega)

/-- No character starts with the second unit of a pair. -/
theorem Spelling.head {c : Char} {units : List Nat} (spells : Spelling c units) :
    ∃ unit rest, units = unit :: rest ∧ ¬ IsTrailing unit := by
  cases spells with
  | single unit number whole => exact ⟨unit, [], rfl, by unfold IsTrailing; omega⟩
  | pair high low leading trailing number => exact ⟨high, [low], rfl, by unfold IsTrailing; omega⟩

/-- Whatever follows, the units of a character are followed by those of no other one. -/
theorem codeUnits_append_isPrefix_iff {c d : Char} {a b : List Nat} :
    codeUnits c ++ a <+: codeUnits d ++ b ↔ c = d ∧ a <+: b := by
  constructor
  · intro starts
    have spellsC := spelling c
    have spellsD := spelling d
    generalize codeUnits c = first at starts spellsC
    generalize codeUnits d = second at starts spellsD
    cases spellsC with
    | single u numberC wholeC =>
      cases spellsD with
      | single v numberD wholeD =>
        obtain ⟨rfl, rest⟩ := List.cons_prefix_cons.mp starts
        exact ⟨Char.toNat_inj.mp (numberC.trans numberD.symm), rest⟩
      | pair high low leading trailing numberD =>
        have same : u = high := (List.cons_prefix_cons.mp starts).1
        omega
    | pair high low leading trailing numberC =>
      cases spellsD with
      | single v numberD wholeD =>
        have same : high = v := (List.cons_prefix_cons.mp starts).1
        omega
      | pair high' low' leading' trailing' numberD =>
        obtain ⟨rfl, more⟩ := List.cons_prefix_cons.mp starts
        obtain ⟨rfl, rest⟩ := List.cons_prefix_cons.mp more
        exact ⟨Char.toNat_inj.mp (numberC.trans numberD.symm), rest⟩
  · rintro ⟨rfl, rest⟩
    exact (List.prefix_append_right_inj _).mpr rest

theorem utf16_isPrefix_iff {part whole : List Char} :
    utf16 part <+: utf16 whole ↔ part <+: whole := by
  induction part generalizing whole with
  | nil => simp
  | cons c part ih =>
    cases whole with
    | nil =>
      obtain ⟨unit, rest, spelt, -⟩ := (spelling c).head
      simp [spelt]
    | cons d whole =>
      rw [utf16_cons, utf16_cons, codeUnits_append_isPrefix_iff, ih, List.cons_prefix_cons]

/-- A text that starts with the second unit of a pair is empty. -/
theorem eq_nil_of_utf16_isPrefix {part : List Char} {low : Nat} {rest : List Nat}
    (trailing : IsTrailing low) (starts : utf16 part <+: low :: rest) : part = [] := by
  cases part with
  | nil => rfl
  | cons c part =>
    obtain ⟨unit, others, spelt, leading⟩ := (spelling c).head
    rw [utf16_cons, spelt, List.cons_append] at starts
    exact absurd ((List.cons_prefix_cons.mp starts).1 ▸ trailing) leading

/-- One text occurs in another exactly when its units occur among those of the other. -/
theorem utf16_isInfix_iff {part whole : List Char} :
    utf16 part <:+: utf16 whole ↔ part <:+: whole := by
  constructor
  · intro occurs
    induction whole with
    | nil =>
      rw [utf16_nil, List.infix_nil] at occurs
      exact List.IsPrefix.isInfix (utf16_isPrefix_iff.mp (by rw [occurs, utf16_nil]))
    | cons c rest ih =>
      -- The hit starts at the character, or at the second unit of a pair, or behind it.
      have units := spelling c
      rw [List.infix_cons_iff, ← utf16_isPrefix_iff]
      rw [utf16_cons] at occurs ⊢
      generalize codeUnits c = spelt at units occurs ⊢
      cases units with
      | single unit number whole =>
        exact (List.infix_cons_iff.mp occurs).imp_right ih
      | pair high low leading trailing number =>
        obtain here | later := List.infix_cons_iff.mp occurs
        · exact .inl here
        · obtain inside | behind := List.infix_cons_iff.mp later
          · rw [eq_nil_of_utf16_isPrefix trailing inside]
            exact .inr List.nil_infix
          · exact .inr (ih behind)
  · rintro ⟨before, after, rfl⟩
    exact ⟨utf16 before, utf16 after, by simp⟩

end ConsoleHarness.Text
