import Mathlib.Data.List.Infix
import ConsoleHarness.Text.Utf8

/-! # The text of a byte sequence

`Decodes` says what text a byte sequence stands for, without reading it byte by byte: the bytes of a
character are that character, and a piece that opens a character and is not completed is one
U+FFFD, and so is a byte that opens none.  `decodes_iff` says that `decode` finds this text and no
other, whatever the bytes are; so the bytes of a text are read as that text.

What the bytes of a character look like is listed once, in `Form`.
-/

namespace ConsoleHarness.Text

/-! ## What bytes stand for -/

/-- Some bytes are the first ones of a character. -/
def Opens (part : List UInt8) : Prop := ∃ c, part <+: String.utf8EncodeChar c

/-- A piece opens a character without completing it, and the byte behind it, if there is one, does
not go on with it. -/
structure Truncated (part rest : List UInt8) : Prop where
  filled : part ≠ []
  incomplete : ∃ c tail, tail ≠ [] ∧ part ++ tail = String.utf8EncodeChar c
  maximal : ∀ b, rest.head? = some b → ¬ Opens (part ++ [b])

/-- A byte sequence stands for a text. -/
inductive Decodes : List UInt8 → List Char → Prop
  | nil : Decodes [] []
  | char {rest text} (c : Char) (more : Decodes rest text) :
      Decodes (String.utf8EncodeChar c ++ rest) (c :: text)
  | truncated {part rest text} (broken : Truncated part rest) (more : Decodes rest text) :
      Decodes (part ++ rest) (replacement :: text)
  | stray {b rest text} (foreign : ¬ Opens [b]) (more : Decodes rest text) :
      Decodes (b :: rest) (replacement :: text)

/-! ## The bytes of a character -/

/-- A byte behind the first one of a character. -/
def IsTail (b : UInt8) : Prop := 0x80 ≤ b.toNat ∧ b.toNat < 0xC0

/-- The forms that the bytes of a character have, with the number of the character. -/
inductive Form : List UInt8 → Nat → Prop
  | one {a n} (low : a.toNat < 0x80) (number : n = a.toNat) : Form [a] n
  | two {a b n} (lead : 0xC2 ≤ a.toNat ∧ a.toNat < 0xE0) (second : IsTail b)
      (number : n = (a.toNat - 0xC0) * 0x40 + (b.toNat - 0x80)) : Form [a, b] n
  | three {a b c n} (lead : 0xE0 ≤ a.toNat ∧ a.toNat < 0xF0) (second : IsTail b) (third : IsTail c)
      (shortest : a.toNat = 0xE0 → 0xA0 ≤ b.toNat) (unpaired : a.toNat = 0xED → b.toNat < 0xA0)
      (number : n =
        ((a.toNat - 0xE0) * 0x40 + (b.toNat - 0x80)) * 0x40 + (c.toNat - 0x80)) :
      Form [a, b, c] n
  | four {a b c d n} (lead : 0xF0 ≤ a.toNat ∧ a.toNat < 0xF5) (second : IsTail b)
      (third : IsTail c) (fourth : IsTail d) (shortest : a.toNat = 0xF0 → 0x90 ≤ b.toNat)
      (greatest : a.toNat = 0xF4 → b.toNat < 0x90)
      (number : n =
        (((a.toNat - 0xF0) * 0x40 + (b.toNat - 0x80)) * 0x40 + (c.toNat - 0x80)) * 0x40 +
          (d.toNat - 0x80)) :
      Form [a, b, c, d] n

theorem toNat_charOfNat {n : Nat} (valid : n.isValidChar) : (Char.ofNat n).toNat = n := by
  rw [Char.ofNat, dif_pos valid]
  rfl

/-- The bytes of every character have one of the forms. -/
theorem form_encode (c : Char) : Form (String.utf8EncodeChar c) c.toNat := by
  have valid : c.toNat < 0xD800 ∨ (0xDFFF < c.toNat ∧ c.toNat < 0x110000) := c.valid
  unfold String.utf8EncodeChar
  rw [Char.toNat_val]
  generalize c.toNat = n at valid
  dsimp only
  -- The encoder asks for the size of the number; each answer is one form.
  split
  · apply Form.one <;> simp only [UInt8.toNat_ofNat'] <;> omega
  · split
    · apply Form.two <;> simp only [IsTail, UInt8.toNat_ofNat'] <;> omega
    · split
      · apply Form.three <;> simp only [IsTail, UInt8.toNat_ofNat'] <;> omega
      · apply Form.four <;> simp only [IsTail, UInt8.toNat_ofNat'] <;> omega

/-- The number of a form is that of a character. -/
theorem Form.isValidChar {bytes : List UInt8} {n : Nat} (form : Form bytes n) : n.isValidChar := by
  unfold Nat.isValidChar
  cases form with
  | one low number => omega
  | two lead second number => unfold IsTail at second; omega
  | three lead second third shortest unpaired number => unfold IsTail at second third; omega
  | four lead second third fourth shortest greatest number =>
    unfold IsTail at second third fourth
    omega

/-- Whatever has one of the forms is the bytes of a character. -/
theorem Form.encode {bytes : List UInt8} {n : Nat} (form : Form bytes n) :
    String.utf8EncodeChar (Char.ofNat n) = bytes := by
  unfold String.utf8EncodeChar
  rw [Char.toNat_val, toNat_charOfNat form.isValidChar]
  -- The size of the number tells the form, and its digits to the base 64 are the bytes.
  cases form with
  | one low number =>
    rw [if_pos (by omega), number, UInt8.ofNat_toNat]
  | two lead second number =>
    unfold IsTail at second
    rw [if_neg (by omega), if_pos (by omega)]
    simp only [List.cons.injEq, ← UInt8.toNat_inj, UInt8.toNat_ofNat', and_true]
    omega
  | three lead second third shortest unpaired number =>
    unfold IsTail at second third
    rw [if_neg (by omega), if_neg (by omega), if_pos (by omega)]
    simp only [List.cons.injEq, ← UInt8.toNat_inj, UInt8.toNat_ofNat', and_true]
    omega
  | four lead second third fourth shortest greatest number =>
    unfold IsTail at second third fourth
    rw [if_neg (by omega), if_neg (by omega), if_neg (by omega)]
    simp only [List.cons.injEq, ← UInt8.toNat_inj, UInt8.toNat_ofNat', and_true]
    omega

/-- Some bytes open a character if they open a form. -/
theorem Form.opens {bytes part : List UInt8} {n : Nat} (form : Form bytes n)
    (start : part <+: bytes) : Opens part :=
  ⟨Char.ofNat n, by rwa [form.encode]⟩

/-! ## Reading byte by byte -/

namespace Utf8State

theorem step_one {b : Nat} (low : b < 0x80) : step .between b = (.between, [Char.ofNat b]) := by
  rw [step, start, if_pos low]

theorem step_two {b : Nat} (lead : 0xC2 ≤ b ∧ b < 0xE0) :
    step .between b = (.inside (b - 0xC0) 1 0x80 0xBF, []) := by
  have bits : b % 0x20 = b - 0xC0 := by omega
  rw [step, start, if_neg (by omega), if_neg (by omega), if_pos lead.2, bits]

theorem step_three {b : Nat} (lead : 0xE0 ≤ b ∧ b < 0xF0) :
    step .between b = (.inside (b - 0xE0) 2 (if b = 0xE0 then 0xA0 else 0x80)
      (if b = 0xED then 0x9F else 0xBF), []) := by
  rw [step, start, if_neg (by omega), if_neg (by omega), if_neg (by omega)]
  by_cases first : b = 0xE0
  · simp [first]
  · by_cases surrogate : b = 0xED
    · simp [surrogate]
    · have bits : b % 0x10 = b - 0xE0 := by omega
      rw [if_neg first, if_neg surrogate, if_pos lead.2, if_neg first, if_neg surrogate, bits]

theorem step_four {b : Nat} (lead : 0xF0 ≤ b ∧ b < 0xF5) :
    step .between b = (.inside (b - 0xF0) 3 (if b = 0xF0 then 0x90 else 0x80)
      (if b = 0xF4 then 0x8F else 0xBF), []) := by
  rw [step, start, if_neg (by omega), if_neg (by omega), if_neg (by omega), if_neg (by omega),
    if_neg (by omega), if_neg (by omega)]
  by_cases first : b = 0xF0
  · simp [first]
  · by_cases last : b = 0xF4
    · simp [last]
    · have bits : b % 0x8 = b - 0xF0 := by omega
      rw [if_neg first, if_pos (by omega), if_neg first, if_neg last, bits]

theorem step_stray {b : Nat} (foreign : 0x80 ≤ b ∧ b < 0xC2 ∨ 0xF5 ≤ b) :
    step .between b = (.between, [replacement]) := by
  rw [step, start, if_neg (by omega)]
  by_cases low : b < 0xC2
  · rw [if_pos low]
  · rw [if_neg low, if_neg (by omega), if_neg (by omega), if_neg (by omega), if_neg (by omega),
      if_neg (by omega), if_neg (by omega), if_neg (by omega)]

theorem step_last {bits low high b : Nat} (fits : low ≤ b ∧ b ≤ high) :
    step (.inside bits 1 low high) b = (.between, [Char.ofNat (bits * 0x40 + (b - 0x80))]) := by
  simp [step, fits]

theorem step_more {bits owed low high b : Nat} (fits : low ≤ b ∧ b ≤ high) :
    step (.inside bits (owed + 2) low high) b =
      (.inside (bits * 0x40 + (b - 0x80)) (owed + 1) 0x80 0xBF, []) := by
  simp [step, fits]

theorem step_broken {bits owed low high b : Nat} (unfit : ¬ (low ≤ b ∧ b ≤ high)) :
    step (.inside bits owed low high) b =
      ((step .between b).1, replacement :: (step .between b).2) := by
  simp [step, unfit]

/-- The state behind some bytes, and the text that they complete. -/
def read (s : Utf8State) : List UInt8 → Utf8State × List Char
  | [] => (s, [])
  | b :: rest =>
    let (next, text) := s.step b.toNat
    let (last, more) := next.read rest
    (last, text ++ more)

@[simp] theorem read_nil (s : Utf8State) : s.read [] = (s, []) := rfl

/-- Bytes that complete nothing by themselves are read on the way to what is behind them. -/
theorem read_cons {s next : Utf8State} {b : UInt8} {text : List Char}
    (step : s.step b.toNat = (next, text)) (rest : List UInt8) :
    s.read (b :: rest) = ((next.read rest).1, text ++ (next.read rest).2) := by
  rw [read, step]

/-- The bytes of a character are read as that character. -/
theorem read_form {bytes : List UInt8} {n : Nat} (form : Form bytes n) :
    between.read bytes = (.between, [Char.ofNat n]) := by
  cases form with
  | one low number =>
    rw [read_cons (step_one low), number]
    rfl
  | two lead second number =>
    unfold IsTail at second
    rw [read_cons (step_two lead), read_cons (step_last (by omega)), number]
    rfl
  | three lead second third shortest unpaired number =>
    unfold IsTail at second third
    rw [read_cons (step_three lead), read_cons (step_more (by split <;> split <;> omega)),
      read_cons (step_last (by omega)), number]
    rfl
  | four lead second third fourth shortest greatest number =>
    unfold IsTail at second third fourth
    rw [read_cons (step_four lead), read_cons (step_more (by split <;> split <;> omega)),
      read_cons (step_more (by omega)), read_cons (step_last (by omega)), number]
    rfl

/-- Behind a piece the machine is inside a character, has read no text, and a byte that it takes
goes on with the character. -/
def Inside (part : List UInt8) : Prop :=
  ∃ bits owed low high, between.read part = (.inside bits owed low high, []) ∧
    ∀ b : UInt8, low ≤ b.toNat → b.toNat ≤ high → Opens (part ++ [b])

theorem isTail_first : IsTail 0x80 := ⟨by decide, by decide⟩

theorem inside_two {a : UInt8} (lead : 0xC2 ≤ a.toNat ∧ a.toNat < 0xE0) : Inside [a] := by
  refine ⟨_, _, _, _, by rw [read_cons (step_two lead)]; rfl, fun b low high => ?_⟩
  have second : IsTail b := ⟨low, by omega⟩
  exact (Form.two lead second rfl).opens List.prefix_rfl

/-- Behind `E0` the range of the second byte begins later, behind `ED` it ends sooner. -/
theorem inside_three {a : UInt8} (lead : 0xE0 ≤ a.toNat ∧ a.toNat < 0xF0) : Inside [a] := by
  refine ⟨_, _, _, _, by rw [read_cons (step_three lead)]; rfl, fun b low high => ?_⟩
  have second : IsTail b := by
    unfold IsTail
    split at low <;> split at high <;> omega
  have shortest : a.toNat = 0xE0 → 0xA0 ≤ b.toNat := fun first => by rwa [if_pos first] at low
  have unpaired : a.toNat = 0xED → b.toNat < 0xA0 := fun surrogate => by
    rw [if_pos surrogate] at high
    omega
  -- The least tail byte makes it a whole character.
  exact (Form.three lead second isTail_first shortest unpaired rfl).opens ⟨[0x80], rfl⟩

theorem inside_three_two {a b : UInt8} (lead : 0xE0 ≤ a.toNat ∧ a.toNat < 0xF0)
    (second : IsTail b) (shortest : a.toNat = 0xE0 → 0xA0 ≤ b.toNat)
    (unpaired : a.toNat = 0xED → b.toNat < 0xA0) : Inside [a, b] := by
  have fits : 0x80 ≤ b.toNat ∧ b.toNat < 0xC0 := second
  refine ⟨_, _, _, _, by
    rw [read_cons (step_three lead), read_cons (step_more (by split <;> split <;> omega))]; rfl,
    fun c low high => ?_⟩
  have third : IsTail c := ⟨low, by omega⟩
  exact (Form.three lead second third shortest unpaired rfl).opens List.prefix_rfl

/-- Behind `F0` the range of the second byte begins later, behind `F4` it ends sooner. -/
theorem inside_four {a : UInt8} (lead : 0xF0 ≤ a.toNat ∧ a.toNat < 0xF5) : Inside [a] := by
  refine ⟨_, _, _, _, by rw [read_cons (step_four lead)]; rfl, fun b low high => ?_⟩
  have second : IsTail b := by
    unfold IsTail
    split at low <;> split at high <;> omega
  have shortest : a.toNat = 0xF0 → 0x90 ≤ b.toNat := fun first => by rwa [if_pos first] at low
  have greatest : a.toNat = 0xF4 → b.toNat < 0x90 := fun last => by
    rw [if_pos last] at high
    omega
  exact (Form.four lead second isTail_first isTail_first shortest greatest rfl).opens
    ⟨[0x80, 0x80], rfl⟩

theorem inside_four_two {a b : UInt8} (lead : 0xF0 ≤ a.toNat ∧ a.toNat < 0xF5)
    (second : IsTail b) (shortest : a.toNat = 0xF0 → 0x90 ≤ b.toNat)
    (greatest : a.toNat = 0xF4 → b.toNat < 0x90) : Inside [a, b] := by
  have fits : 0x80 ≤ b.toNat ∧ b.toNat < 0xC0 := second
  refine ⟨_, _, _, _, by
    rw [read_cons (step_four lead), read_cons (step_more (by split <;> split <;> omega))]; rfl,
    fun c low high => ?_⟩
  have third : IsTail c := ⟨low, by omega⟩
  exact (Form.four lead second third isTail_first shortest greatest rfl).opens ⟨[0x80], rfl⟩

theorem inside_four_three {a b c : UInt8} (lead : 0xF0 ≤ a.toNat ∧ a.toNat < 0xF5)
    (second : IsTail b) (third : IsTail c) (shortest : a.toNat = 0xF0 → 0x90 ≤ b.toNat)
    (greatest : a.toNat = 0xF4 → b.toNat < 0x90) : Inside [a, b, c] := by
  have fits : 0x80 ≤ b.toNat ∧ b.toNat < 0xC0 := second
  have also : 0x80 ≤ c.toNat ∧ c.toNat < 0xC0 := third
  refine ⟨_, _, _, _, by
    rw [read_cons (step_four lead), read_cons (step_more (by split <;> split <;> omega)),
      read_cons (step_more (by omega))]; rfl, fun d low high => ?_⟩
  have fourth : IsTail d := ⟨low, by omega⟩
  exact (Form.four lead second third fourth shortest greatest rfl).opens List.prefix_rfl

/-- Behind a piece that opens a character without completing it the machine is inside it. -/
theorem inside_of_cut {bytes part tail : List UInt8} {n : Nat} (form : Form bytes n)
    (cut : part ++ tail = bytes) (filled : part ≠ []) (owing : tail ≠ []) : Inside part := by
  have goesOn {a : UInt8} {rest part : List UInt8} (cut : part ++ tail = a :: rest)
      (filled : part ≠ []) : ∃ more, part = a :: more ∧ more ++ tail = rest := by
    obtain ⟨none, -⟩ | ⟨more, same, behind⟩ := List.append_eq_cons_iff.mp cut
    · exact absurd none filled
    · exact ⟨more, same, behind.symm⟩
  have goesNoFurther {part : List UInt8} : part ++ tail ≠ [] := by simp [owing]
  cases form with
  | one low number =>
    obtain ⟨afterLead, rfl, cutLead⟩ := goesOn cut filled
    exact absurd cutLead goesNoFurther
  | two lead second number =>
    obtain ⟨afterLead, rfl, cutLead⟩ := goesOn cut filled
    rcases eq_or_ne afterLead [] with rfl | pastLead
    · exact inside_two lead
    obtain ⟨afterSecond, rfl, cutSecond⟩ := goesOn cutLead pastLead
    exact absurd cutSecond goesNoFurther
  | three lead second third shortest unpaired number =>
    obtain ⟨afterLead, rfl, cutLead⟩ := goesOn cut filled
    rcases eq_or_ne afterLead [] with rfl | pastLead
    · exact inside_three lead
    obtain ⟨afterSecond, rfl, cutSecond⟩ := goesOn cutLead pastLead
    rcases eq_or_ne afterSecond [] with rfl | pastSecond
    · exact inside_three_two lead second shortest unpaired
    obtain ⟨afterThird, rfl, cutThird⟩ := goesOn cutSecond pastSecond
    exact absurd cutThird goesNoFurther
  | four lead second third fourth shortest greatest number =>
    obtain ⟨afterLead, rfl, cutLead⟩ := goesOn cut filled
    rcases eq_or_ne afterLead [] with rfl | pastLead
    · exact inside_four lead
    obtain ⟨afterSecond, rfl, cutSecond⟩ := goesOn cutLead pastLead
    rcases eq_or_ne afterSecond [] with rfl | pastSecond
    · exact inside_four_two lead second shortest greatest
    obtain ⟨afterThird, rfl, cutThird⟩ := goesOn cutSecond pastSecond
    rcases eq_or_ne afterThird [] with rfl | pastThird
    · exact inside_four_three lead second third shortest greatest
    obtain ⟨afterFourth, rfl, cutFourth⟩ := goesOn cutThird pastThird
    exact absurd cutFourth goesNoFurther

end Utf8State

/-! ## What bytes are decoded to -/

theorem decodeFrom_append (s : Utf8State) (a b : List UInt8) :
    decodeFrom s (a ++ b) = (s.read a).2 ++ decodeFrom (s.read a).1 b := by
  induction a generalizing s with
  | nil => rfl
  | cons first rest ih => simp [decodeFrom, Utf8State.read, ih]

theorem decode_char (c : Char) (rest : List UInt8) :
    decode (String.utf8EncodeChar c ++ rest) = c :: decode rest := by
  rw [decode, decodeFrom_append, Utf8State.read_form (form_encode c), Char.ofNat_toNat]
  rfl

theorem decode_truncated {part rest : List UInt8} (broken : Truncated part rest) :
    decode (part ++ rest) = replacement :: decode rest := by
  obtain ⟨c, tail, owing, cut⟩ := broken.incomplete
  obtain ⟨bits, owed, low, high, inside, opens⟩ :=
    Utf8State.inside_of_cut (form_encode c) cut broken.filled owing
  rw [decode, decodeFrom_append, inside, List.nil_append]
  cases rest with
  | nil => rfl
  | cons b rest =>
    -- A byte that the machine took would make the piece longer.
    have unfit : ¬ (low ≤ b.toNat ∧ b.toNat ≤ high) := fun fits =>
      broken.maximal b rfl (opens b fits.1 fits.2)
    rw [decodeFrom, Utf8State.step_broken unfit]
    rfl

/-- The bytes that open a character. -/
theorem opens_single {b : UInt8} (lead : b.toNat < 0x80 ∨ 0xC2 ≤ b.toNat ∧ b.toNat < 0xF5) :
    Opens [b] := by
  have zero := Utf8State.isTail_first
  -- Behind `E0` and `F0` the range of the second byte begins later.
  obtain low | two | three | four : b.toNat < 0x80 ∨ (0xC2 ≤ b.toNat ∧ b.toNat < 0xE0) ∨
      (0xE0 ≤ b.toNat ∧ b.toNat < 0xF0) ∨ (0xF0 ≤ b.toNat ∧ b.toNat < 0xF5) := by omega
  · exact (Form.one low rfl).opens List.prefix_rfl
  · exact (Form.two two zero rfl).opens ⟨[0x80], rfl⟩
  · refine (Form.three three (b := if b.toNat = 0xE0 then 0xA0 else 0x80) ?_ zero ?_ ?_ rfl).opens
      ⟨[_, 0x80], rfl⟩ <;> split <;> simp_all [IsTail]
  · refine (Form.four four (b := if b.toNat = 0xF0 then 0x90 else 0x80) ?_ zero zero ?_ ?_
      rfl).opens ⟨[_, 0x80, 0x80], rfl⟩ <;> split <;> simp_all [IsTail]

theorem decode_stray {b : UInt8} (foreign : ¬ Opens [b]) (rest : List UInt8) :
    decode (b :: rest) = replacement :: decode rest := by
  have stray : 0x80 ≤ b.toNat ∧ b.toNat < 0xC2 ∨ 0xF5 ≤ b.toNat := by
    by_contra lead
    exact foreign (opens_single (by omega))
  rw [decode, decodeFrom, Utf8State.step_stray stray]
  rfl

theorem Decodes.decode_eq {bytes : List UInt8} {text : List Char} (stands : Decodes bytes text) :
    decode bytes = text := by
  induction stands with
  | nil => rfl
  | char c more ih => rw [decode_char, ih]
  | truncated broken more ih => rw [decode_truncated broken, ih]
  | stray foreign more ih => rw [decode_stray foreign, ih]

/-- A piece that opens a character is the start of a longest such piece. -/
theorem exists_longest {part : List UInt8} (opens : Opens part) (rest : List UInt8) :
    ∃ more tail, rest = more ++ tail ∧ Opens (part ++ more) ∧
      ∀ b, tail.head? = some b → ¬ Opens (part ++ more ++ [b]) := by
  induction rest generalizing part with
  | nil => exact ⟨[], [], rfl, by simpa, by simp⟩
  | cons b rest ih =>
    by_cases longer : Opens (part ++ [b])
    · obtain ⟨more, tail, rfl, also, last⟩ := ih longer
      exact ⟨b :: more, tail, rfl, by simpa using also, by simpa using last⟩
    · exact ⟨[], b :: rest, rfl, by simpa, by simpa⟩

/-- Every byte sequence stands for some text. -/
theorem exists_decodes (bytes : List UInt8) : ∃ text, Decodes bytes text := by
  induction size : bytes.length using Nat.strong_induction_on generalizing bytes with
  | _ size ih =>
    subst size
    match bytes with
    | [] => exact ⟨[], .nil⟩
    | b :: rest =>
      by_cases opens : Opens [b]
      · -- The character that the bytes open is either there as a whole or broken off.
        obtain ⟨more, tail, rfl, ⟨c, left, cut⟩, last⟩ := exists_longest opens rest
        have shorter : tail.length < (b :: (more ++ tail)).length := by
          rw [List.length_cons, List.length_append]
          omega
        obtain ⟨text, stands⟩ := ih tail.length shorter tail rfl
        rcases eq_or_ne left [] with rfl | owing
        · refine ⟨c :: text, ?_⟩
          have whole : b :: (more ++ tail) = String.utf8EncodeChar c ++ tail := by simp [← cut]
          rw [whole]
          exact .char c stands
        · have broken : Truncated (b :: more) tail := ⟨by simp, ⟨c, left, owing, cut⟩, last⟩
          exact ⟨replacement :: text, .truncated broken stands⟩
      · obtain ⟨text, stands⟩ := ih rest.length (by simp) rest rfl
        exact ⟨replacement :: text, .stray opens stands⟩

/-- The bytes stand for the text that they are decoded to, and for no other. -/
theorem decodes_iff {bytes : List UInt8} {text : List Char} :
    Decodes bytes text ↔ decode bytes = text := by
  refine ⟨Decodes.decode_eq, ?_⟩
  rintro rfl
  obtain ⟨text, stands⟩ := exists_decodes bytes
  rwa [stands.decode_eq]

/-! ## The bytes of a text -/

/-- The bytes are collected in order; the induction is on the number of those that are left. -/
theorem collected (bytes : ByteArray) {left i : Nat} (here : i + left = bytes.size)
    (found : List UInt8) :
    ByteArray.toList.loop bytes i found = found.reverse ++ bytes.data.toList.drop i := by
  have size : bytes.data.toList.length = i + left := by simp [here]
  induction left generalizing i found with
  | zero =>
    rw [ByteArray.toList.loop, if_neg (by omega), List.drop_of_length_le (by omega)]
    exact (List.append_nil _).symm
  | succ left ih =>
    have there : i < bytes.data.toList.length := by omega
    have next : bytes.data.toList.drop i = bytes.get! i :: bytes.data.toList.drop (i + 1) := by
      rw [List.drop_eq_getElem_cons there, Array.getElem_toList]
      exact congrArg (· :: _) (getElem!_pos bytes.data i (by simpa using there)).symm
    rw [ByteArray.toList.loop, if_pos (by omega), ih (by omega) _ (by omega), next]
    simp

theorem encode_eq (s : String) : encode s = s.toList.flatMap String.utf8EncodeChar := by
  rw [encode, String.toUTF8_eq_toByteArray, ← String.utf8Encode_toList, ByteArray.toList,
    collected _ (Nat.zero_add _)]
  exact List.toList_data_toByteArray

/-- The bytes of a text stand for that text. -/
theorem decodes_encode (s : String) : Decodes (encode s) s.toList := by
  rw [encode_eq]
  induction s.toList with
  | nil => exact .nil
  | cons c rest ih => exact .char c ih

end ConsoleHarness.Text
