import Mathlib.Data.List.TakeWhile
import ConsoleHarness.Proofs.Text.Pattern
import ConsoleHarness.Text.Ansi

/-! # Control sequences and cuts

Whether a control sequence is found does not depend on what stands behind it (`local_pattern`), and
what a sequence has behind a cut stays in the text there (`tailsStay_pattern`).

The readers of sequences are put together from a few ways of reading (`Reads.after`, `Reads.or`,
`Reads.skip`), each of which reads a text the same way whatever is behind the part it takes.
-/

namespace ConsoleHarness.Text.Ansi

/-! ## Readers -/

/-- One character of a class, and what another reader takes behind it. -/
def after (inClass : Char → Bool) (reader : List Char → Option (List Char)) :
    List Char → Option (List Char)
  | c :: rest => if inClass c then reader rest else none
  | [] => none

/-- A reader takes parts of some kind from the start of a text.  If it fails on a text it fails on
each start of the text, and if the part that it takes ends before a cut it takes the same part of
the text in front of the cut. -/
structure Reads (kind : List Char → Prop) (reader : List Char → Option (List Char)) : Prop where
  takes : ∀ {cs left}, reader cs = some left → ∃ part, cs = part ++ left ∧ kind part
  fails : ∀ {cs more}, reader (cs ++ more) = none → reader cs = none
  stops : ∀ {cs more left}, reader (cs ++ more) = some left →
    (∃ rest, left = rest ++ more ∧ reader cs = some rest) ∨ left.length < more.length

namespace Reads

variable {kind other : List Char → Prop} {reader second : List Char → Option (List Char)}

theorem length_le (reads : Reads kind reader) {cs left : List Char}
    (taken : reader cs = some left) : left.length ≤ cs.length := by
  obtain ⟨part, rfl, -⟩ := reads.takes taken
  simp

/-- The reader that takes nothing. -/
theorem done (empty : kind []) : Reads kind some where
  takes taken := ⟨[], Option.some.inj taken, empty⟩
  fails failed := by contradiction
  stops taken := .inl ⟨_, (Option.some.inj taken).symm, rfl⟩

theorem after {inClass : Char → Bool} (reads : Reads kind reader)
    (longer : ∀ c part, inClass c = true → kind part → other (c :: part)) :
    Reads other (after inClass reader) where
  takes {cs left} taken := by
    cases cs with
    | nil => contradiction
    | cons c rest =>
      rw [Ansi.after] at taken
      split at taken
      case isTrue member =>
        obtain ⟨part, rfl, kind⟩ := reads.takes taken
        exact ⟨c :: part, rfl, longer c part member kind⟩
      case isFalse => contradiction
  fails {cs more} failed := by
    cases cs with
    | nil => rfl
    | cons c rest =>
      rw [List.cons_append, Ansi.after] at failed
      rw [Ansi.after]
      split at failed
      case isTrue member => rw [if_pos member, reads.fails failed]
      case isFalse foreign => rw [if_neg foreign]
  stops {cs more left} taken := by
    cases cs with
    | nil =>
      -- The whole part is taken from behind the cut.
      cases more with
      | nil => contradiction
      | cons c more =>
        rw [List.nil_append, Ansi.after] at taken
        split at taken
        case isTrue => exact .inr (Nat.lt_succ_of_le (reads.length_le taken))
        case isFalse => contradiction
    | cons c rest =>
      rw [List.cons_append, Ansi.after] at taken
      rw [Ansi.after]
      split at taken
      case isTrue member => rw [if_pos member]; exact reads.stops taken
      case isFalse => contradiction

theorem or (first : Reads kind reader) (others : Reads kind second) :
    Reads kind fun cs => (reader cs).or (second cs) where
  takes taken := by
    obtain taken | ⟨-, taken⟩ := Option.or_eq_some_iff.mp taken
    · exact first.takes taken
    · exact others.takes taken
  fails failed := by
    obtain ⟨one, two⟩ := Option.or_eq_none_iff.mp failed
    exact Option.or_eq_none_iff.mpr ⟨first.fails one, others.fails two⟩
  stops {cs more left} taken := by
    obtain taken | ⟨failed, taken⟩ := Option.or_eq_some_iff.mp taken
    · obtain ⟨rest, same, here⟩ | beyond := first.stops taken
      · exact .inl ⟨rest, same, Option.or_eq_some_iff.mpr (.inl here)⟩
      · exact .inr beyond
    · obtain ⟨rest, same, here⟩ | beyond := others.stops taken
      · exact .inl ⟨rest, same, Option.or_eq_some_iff.mpr (.inr ⟨first.fails failed, here⟩)⟩
      · exact .inr beyond

/-- Characters of a class may be skipped in front of a part that is not empty. -/
theorem skip {inClass : Char → Bool} (reads : Reads kind reader)
    (filled : ∀ part, kind part → part ≠ [])
    (longer : ∀ c part, inClass c = true → kind part → kind (c :: part)) :
    Reads kind fun cs => reader (skip inClass cs) where
  takes {cs left} taken := by
    induction cs with
    | nil => exact reads.takes taken
    | cons c rest ih =>
      rw [Ansi.skip, List.dropWhile_cons] at taken
      split at taken
      case isTrue member =>
        obtain ⟨part, rfl, kind⟩ := ih taken
        exact ⟨c :: part, rfl, longer c part member kind⟩
      case isFalse => exact reads.takes taken
  fails {cs more} failed := by
    induction cs with
    | nil =>
      cases taken : reader [] with
      | none => exact taken
      | some left =>
        obtain ⟨part, none, kind⟩ := reads.takes taken
        exact absurd (List.append_eq_nil_iff.mp none.symm).1 (filled part kind)
    | cons c rest ih =>
      rw [Ansi.skip, List.cons_append, List.dropWhile_cons] at failed
      rw [Ansi.skip, List.dropWhile_cons]
      split at failed
      case isTrue member => rw [if_pos member]; exact ih failed
      case isFalse foreign => rw [if_neg foreign]; exact reads.fails failed
  stops {cs more left} taken := by
    induction cs with
    | nil =>
      -- A part that is taken behind the cut is not empty.
      obtain ⟨part, same, kind⟩ := reads.takes taken
      have size := congrArg List.length same
      have shorter := length_skip_le inClass more
      have some := List.length_pos_iff.mpr (filled part kind)
      rw [List.length_append] at size
      exact .inr (by rw [List.nil_append] at size; omega)
    | cons c rest ih =>
      rw [Ansi.skip, List.cons_append, List.dropWhile_cons] at taken
      rw [Ansi.skip, List.dropWhile_cons]
      split at taken
      case isTrue member => rw [if_pos member]; exact ih taken
      case isFalse foreign => rw [if_neg foreign]; exact reads.stops taken

end Reads

/-! ## Inside a sequence -/

/-- A character that introduces no sequence. -/
def Quiet (c : Char) : Prop :=
  c ≠ escape ∧ c.toNat ≠ 0x90 ∧ c.toNat ≠ 0x98 ∧ c.toNat ≠ 0x9B ∧ c.toNat ≠ 0x9D ∧
    c.toNat ≠ 0x9E ∧ c.toNat ≠ 0x9F

theorem toNat_escape : escape.toNat = 0x1B := rfl

/-- A control character other than these is quiet if it is none of the second set. -/
theorem quiet_of_toNat {c : Char} (low : c.toNat ≠ 0x1B)
    (high : c.toNat < 0x90 ∨ c.toNat = 0x9C ∨ 0xA0 ≤ c.toNat) : Quiet c := by
  refine ⟨fun same => low (same ▸ rfl), ?_⟩
  omega

/-- The characters behind the first one of a sequence: quiet ones, and at the end a terminator. -/
inductive Tail : List Char → Prop
  | nil : Tail []
  | terminator : Tail [escape, '\\']
  | cons {c cs} (quiet : Quiet c) (more : Tail cs) : Tail (c :: cs)

/-- Characters behind the first one that are not missing. -/
def Filled (part : List Char) : Prop := part ≠ [] ∧ Tail part

theorem Filled.cons {c : Char} {part : List Char} (quiet : Quiet c) (more : Tail part) :
    Filled (c :: part) :=
  ⟨List.cons_ne_nil c part, .cons quiet more⟩

theorem within_eq_true {c : Char} {low high : Nat} :
    within c low high = true ↔ low ≤ c.toNat ∧ c.toNat ≤ high := by
  simp [within]

/-- The character of a class of one. -/
theorem Quiet.of_beq {d : Char} (quiet : Quiet d) (c : Char) (member : (c == d) = true) :
    Quiet c := by
  obtain rfl : c = d := by simpa using member
  exact quiet

/-! ## The readers of parts -/

theorem reads_class {inClass : Char → Bool} (quiet : ∀ c, inClass c = true → Quiet c) :
    Reads Filled (after inClass some) :=
  (Reads.done .nil).after fun c _ member more => .cons (quiet c member) more

theorem reads_one {inClass : Char → Bool} (quiet : ∀ c, inClass c = true → Quiet c) :
    Reads Filled (one? inClass) := by
  have same : one? inClass = after inClass some := by
    funext cs
    cases cs <;> rfl
  rw [same]
  exact reads_class quiet

/-- A pair of characters is read one after the other. -/
theorem after_pair (first second : Char) (reader : List Char → Option (List Char))
    (cs : List Char) :
    (∃ rest, cs = first :: second :: rest ∧
        after (· == first) (after (· == second) reader) cs = reader rest) ∨
      (∀ rest, cs ≠ first :: second :: rest) ∧
        after (· == first) (after (· == second) reader) cs = none := by
  match cs with
  | [] => exact .inr ⟨by simp, rfl⟩
  | [c] => exact .inr ⟨by simp, by simp [after]⟩
  | c :: d :: rest =>
    by_cases pair : c = first ∧ d = second
    · obtain ⟨rfl, rfl⟩ := pair
      exact .inl ⟨rest, rfl, by simp [after]⟩
    · refine .inr ⟨fun other same => pair ?_, ?_⟩
      · simp only [List.cons.injEq] at same
        exact ⟨same.1, same.2.1⟩
      · by_cases start : c = first
        · have apart : d ≠ second := fun same => pair ⟨start, same⟩
          simp [after, apart]
        · simp [after, start]

/-- A reader that takes what it reads behind a pair of characters, or behind one character. -/
theorem eq_pair_or_single {reader body : List Char → Option (List Char)} {mark : Char} {code : Nat}
    (empty : reader [] = none) (pair : ∀ rest, reader (escape :: mark :: rest) = body rest)
    (single : ∀ c rest, (∀ more, c :: rest ≠ escape :: mark :: more) →
      reader (c :: rest) = if c.toNat = code then body rest else none)
    (other : code ≠ 0x1B) :
    reader = fun cs => (after (· == escape) (after (· == mark) body) cs).or
      (after (·.toNat == code) body cs) := by
  funext cs
  obtain ⟨rest, rfl, paired⟩ | ⟨unpaired, paired⟩ := after_pair escape mark body cs
  · have foreign : after (·.toNat == code) body (escape :: mark :: rest) = none := by
      simp [after, toNat_escape, other.symm]
    rw [pair, paired, foreign, Option.or_none]
  · rw [paired, Option.none_or]
    cases cs with
    | nil => exact empty
    | cons c rest => simp [single c rest unpaired, after]

theorem terminator?_eq :
    terminator? = fun cs => (after (· == escape) (after (· == '\\') some) cs).or
      (after (·.toNat == 0x9C) some cs) := by
  refine eq_pair_or_single rfl (fun _ => rfl) (fun c rest unpaired => ?_) (by decide)
  rw [terminator?]
  rintro other rfl rfl
  exact unpaired other rfl

theorem reads_terminator : Reads Filled terminator? := by
  have none : Reads (· = []) some := .done rfl
  -- The escape character is not quiet, so the pair is not read like other parts.
  have backslash : Reads (· = ['\\']) (after (· == '\\') some) := by
    refine none.after ?_
    rintro c part member rfl
    simpa using member
  have pair : Reads Filled (after (· == escape) (after (· == '\\') some)) := by
    refine backslash.after ?_
    rintro c part member rfl
    obtain rfl : c = escape := by simpa using member
    exact ⟨by simp, .terminator⟩
  have single : Reads Filled (after (·.toNat == 0x9C) some) := by
    refine reads_class fun c member => ?_
    have code : c.toNat = 0x9C := by simpa using member
    exact quiet_of_toNat (by omega) (by omega)
  rw [terminator?_eq]
  exact pair.or single

theorem reads_bellOrTerminator : Reads Filled bellOrTerminator? := by
  have ring : Reads Filled (after (· == bell) some) :=
    reads_class (quiet_of_toNat (by decide) (by decide) : Quiet bell).of_beq
  have same : bellOrTerminator? = fun cs => (after (· == bell) some cs).or (terminator? cs) := by
    funext cs
    unfold bellOrTerminator?
    split
    · rfl
    · rename_i silent
      cases cs with
      | nil => rfl
      | cons c rest =>
        have other : c ≠ bell := fun same => silent rest (same ▸ rfl)
        simp [after, other]
  rw [same]
  exact ring.or reads_terminator

/-- A terminator may be missing. -/
theorem reads_optionalEnd : Reads Tail fun cs => some ((bellOrTerminator? cs).getD cs) where
  takes {cs left} taken := by
    cases ends : bellOrTerminator? cs with
    | none => exact ⟨[], by simpa [ends] using taken, .nil⟩
    | some rest =>
      obtain ⟨part, same, filled⟩ := reads_bellOrTerminator.takes ends
      obtain rfl : rest = left := by simpa [ends] using taken
      exact ⟨part, same, filled.2⟩
  fails failed := by contradiction
  stops {cs more left} taken := by
    cases ends : bellOrTerminator? (cs ++ more) with
    | none =>
      refine .inl ⟨cs, by simpa [ends] using taken.symm, ?_⟩
      rw [reads_bellOrTerminator.fails ends]
      rfl
    | some rest =>
      obtain rfl : rest = left := by simpa [ends] using taken
      obtain ⟨shorter, same, here⟩ | beyond := reads_bellOrTerminator.stops ends
      · exact .inl ⟨shorter, same, by rw [here]; rfl⟩
      · exact .inr beyond

/-- What breaks a string off is what could introduce a sequence inside it. -/
theorem quiet_of_breaksOff {c : Char} (body : breaksOff c = false) : Quiet c := by
  simp only [breaksOff, within, Bool.or_eq_false_iff, beq_eq_false_iff_ne, ne_eq,
    Bool.and_eq_false_iff, decide_eq_false_iff_not] at body
  obtain ⟨⟨-, unescaped⟩, code⟩ := body
  exact ⟨unescaped, by omega⟩

theorem Filled.more {c : Char} {part : List Char} (quiet : Quiet c) (filled : Filled part) :
    Filled (c :: part) :=
  .cons quiet filled.2

theorem reads_commandBody : Reads Filled commandBody? := by
  refine reads_bellOrTerminator.skip (fun _ filled => filled.1) fun c _ member filled => ?_
  exact filled.more (quiet_of_breaksOff (by simpa using (Bool.and_eq_true_iff.mp member).2))

theorem reads_stringBody : Reads Filled stringBody? := by
  refine reads_terminator.skip (fun _ filled => filled.1) fun c part member filled => ?_
  exact filled.more (quiet_of_breaksOff (by simpa using member))

/-- The printable characters are quiet. -/
theorem quiet_of_within {c : Char} {low high : Nat} (inside : within c low high = true)
    (printable : 0x20 ≤ low ∧ high < 0x7F) : Quiet c := by
  obtain ⟨above, below⟩ := within_eq_true.mp inside
  exact quiet_of_toNat (by omega) (by omega)

theorem reads_parameters : Reads Filled parameters? := by
  have last : Reads Filled (one? (within · 0x40 0x7E)) :=
    reads_one fun c member => quiet_of_within member (by decide)
  have middle : Reads Filled fun cs => one? (within · 0x40 0x7E) (skip (within · 0x20 0x2F) cs) :=
    last.skip (fun _ filled => filled.1)
      fun c part member filled => filled.more (quiet_of_within member (by decide))
  exact middle.skip (fun _ filled => filled.1)
    fun c part member filled => filled.more (quiet_of_within member (by decide))

/-! ## The readers of sequences -/

/-- A sequence: its first character, and the characters of a sequence behind it. -/
def Whole (part : List Char) : Prop := ∃ first tail, part = first :: tail ∧ Tail tail

/-- Any character can be the first one. -/
theorem Reads.first {inClass : Char → Bool} {reader : List Char → Option (List Char)}
    (reads : Reads Filled reader) : Reads Whole (Ansi.after inClass reader) :=
  reads.after fun c _ _ filled => ⟨c, _, rfl, filled.2⟩

theorem Reads.behind {inClass : Char → Bool} {reader : List Char → Option (List Char)}
    (reads : Reads Filled reader) (quiet : ∀ c, inClass c = true → Quiet c) :
    Reads Filled (Ansi.after inClass reader) :=
  reads.after fun c _ member filled => filled.more (quiet c member)

theorem command?_eq :
    command? = fun cs => (after (· == escape) (after (· == ']') commandBody?) cs).or
      (after (·.toNat == 0x9D) commandBody? cs) := by
  refine eq_pair_or_single rfl (fun _ => rfl) (fun c rest unpaired => ?_) (by decide)
  rw [command?]
  rintro other rfl rfl
  exact unpaired other rfl

theorem reads_command : Reads Whole command? := by
  have bracket : Reads Filled (after (· == ']') commandBody?) :=
    reads_commandBody.behind (quiet_of_toNat (by decide) (by decide) : Quiet ']').of_beq
  rw [command?_eq]
  exact bracket.first.or reads_commandBody.first

theorem control?_eq :
    control? = fun cs => (after (· == escape) (after (· == '[') parameters?) cs).or
      (after (·.toNat == 0x9B) parameters? cs) := by
  refine eq_pair_or_single rfl (fun _ => rfl) (fun c rest unpaired => ?_) (by decide)
  rw [control?]
  rintro other rfl rfl
  exact unpaired other rfl

theorem reads_control : Reads Whole control? := by
  have bracket : Reads Filled (after (· == '[') parameters?) :=
    reads_parameters.behind (quiet_of_toNat (by decide) (by decide) : Quiet '[').of_beq
  rw [control?_eq]
  exact bracket.first.or reads_parameters.first

/-- The characters that introduce a control string behind an escape character. -/
def opensString (c : Char) : Bool := c == 'P' || c == 'X' || c == '^' || c == '_' || c == 'k'

/-- The characters that introduce a control string by themselves. -/
def startsString (c : Char) : Bool :=
  decide (c.toNat = 0x90 ∨ c.toNat = 0x98 ∨ c.toNat = 0x9E ∨ c.toNat = 0x9F)

theorem controlString?_eq :
    controlString? = fun cs => (after (· == escape) (after opensString stringBody?) cs).or
      (after startsString stringBody? cs) := by
  funext cs
  match cs with
  | [] => rfl
  | [c] =>
    rw [controlString?]
    · by_cases first : c = escape <;> simp [after, startsString, first]
    · simp
  | c :: d :: rest =>
    by_cases first : c = escape
    · subst first
      rw [show controlString? (escape :: d :: rest) =
        if opensString d then stringBody? rest else none from rfl]
      simp [after, startsString, toNat_escape]
    · rw [controlString?]
      · simp [after, startsString, first]
      · rintro other more rfl
        exact absurd rfl first

theorem reads_controlString : Reads Whole controlString? := by
  have opened : Reads Filled (after opensString stringBody?) := by
    refine reads_stringBody.behind fun c member => ?_
    simp only [opensString, Bool.or_eq_true, beq_iff_eq, or_assoc] at member
    obtain rfl | rfl | rfl | rfl | rfl := member <;> exact quiet_of_toNat (by decide) (by decide)
  rw [controlString?_eq]
  exact opened.first.or reads_stringBody.first

theorem bounds_of_endsPair {c : Char} (ends : endsPair c = true) :
    0x30 ≤ c.toNat ∧ c.toNat < 0x7F := by
  simp only [endsPair, Bool.or_eq_true, within_eq_true, beq_iff_eq, or_assoc] at ends
  obtain range | range | range | rfl | rfl | range | range | rfl | rfl | rfl | rfl | rfl | rfl |
    rfl := ends
  all_goals first | omega | decide

/-- An escape sequence of its own has further characters, or is a pair. -/
theorem escape?_eq :
    escape? = after (· == escape) fun cs =>
      (after (within · 0x20 0x2F) (fun cs => one? (within · 0x30 0x7E)
        (skip (within · 0x20 0x2F) cs)) cs).or (one? endsPair cs) := by
  funext cs
  match cs with
  | [] => rfl
  | [c] =>
    rw [escape?]
    · simp [after, one?]
    · simp
  | c :: d :: rest =>
    by_cases first : c = escape
    · subst first
      rw [show escape? (escape :: d :: rest) =
        if within d 0x20 0x2F then one? (within · 0x30 0x7E) (skip (within · 0x20 0x2F) rest)
        else one? endsPair (d :: rest) from rfl]
      split
      case isTrue further =>
        -- What comes before further characters ends no pair.
        have unpaired : endsPair d = false := by
          by_contra ends
          have bounds := bounds_of_endsPair (by simpa using ends)
          have range := within_eq_true.mp further
          omega
        simp [after, one?, further, unpaired]
      case isFalse alone => simp [after, alone]
    · rw [escape?]
      · simp [after, first]
      · intro other more same
        exact absurd (List.cons.inj same).1 first

theorem reads_escape : Reads Whole escape? := by
  have last : Reads Filled (one? (within · 0x30 0x7E)) :=
    reads_one fun c member => quiet_of_within member (by decide)
  have further : Reads Filled fun cs => one? (within · 0x30 0x7E) (skip (within · 0x20 0x2F) cs) :=
    last.skip (fun _ filled => filled.1)
      fun c part member filled => filled.more (quiet_of_within member (by decide))
  have longer : Reads Filled (after (within · 0x20 0x2F) fun cs =>
      one? (within · 0x30 0x7E) (skip (within · 0x20 0x2F) cs)) :=
    further.behind fun c member => quiet_of_within member (by decide)
  have pair : Reads Filled (one? endsPair) := by
    refine reads_one fun c ends => ?_
    have bounds := bounds_of_endsPair ends
    exact quiet_of_toNat (by omega) (by omega)
  rw [escape?_eq]
  exact (longer.or pair).first

theorem Tail.append {front part : List Char} (quiet : ∀ c ∈ front, Quiet c) (tail : Tail part) :
    Tail (front ++ part) := by
  induction front with
  | nil => exact tail
  | cons c rest ih =>
    exact .cons (quiet c List.mem_cons_self)
      (ih fun other member => quiet other (List.mem_cons_of_mem _ member))

/-- Seven digits, and an end that may be missing. -/
def digits? (cs : List Char) : Option (List Char) :=
  if (cs.take 7).length = 7 ∧ (cs.take 7).all isHex then
    some ((bellOrTerminator? (cs.drop 7)).getD (cs.drop 7))
  else none

theorem quiet_of_isHex {c : Char} (hex : isHex c = true) : Quiet c := by
  simp only [isHex, Bool.or_eq_true, or_assoc] at hex
  obtain range | range | range := hex <;> exact quiet_of_within range (by decide)

theorem reads_digits : Reads Tail digits? where
  takes {cs left} taken := by
    rw [digits?] at taken
    split at taken
    case isTrue seven =>
      obtain ⟨part, same, tail⟩ := reads_optionalEnd.takes taken
      refine ⟨cs.take 7 ++ part, ?_, tail.append fun c member => ?_⟩
      · rw [List.append_assoc, ← same, List.take_append_drop]
      · exact quiet_of_isHex (List.all_eq_true.mp seven.2 c member)
    case isFalse => contradiction
  fails {cs more} failed := by
    rw [digits?] at failed ⊢
    split at failed
    case isTrue => contradiction
    case isFalse unlike =>
      refine if_neg fun seven => unlike ?_
      have long : 7 ≤ cs.length := by
        have count := seven.1
        rw [List.length_take] at count
        omega
      rwa [List.take_append_of_le_length long]
  stops {cs more left} taken := by
    rw [digits?] at taken
    split at taken
    case isTrue seven =>
      by_cases long : 7 ≤ cs.length
      · rw [List.take_append_of_le_length long] at seven
        rw [List.drop_append_of_le_length long] at taken
        rw [digits?, if_pos seven]
        exact reads_optionalEnd.stops taken
      · -- The digits reach across the cut.
        obtain ⟨part, same, -⟩ := reads_optionalEnd.takes taken
        have size := congrArg List.length same
        have count := seven.1
        simp only [List.length_take, List.length_drop, List.length_append] at size count
        exact .inr (by omega)
    case isFalse => contradiction

theorem palette?_eq :
    palette? = after (· == escape) (after (· == ']') fun cs =>
      (after (· == 'P') digits? cs).or
        (after (· == 'R') (fun cs => some ((bellOrTerminator? cs).getD cs)) cs)) := by
  funext cs
  obtain ⟨rest, rfl, pair⟩ | ⟨unpaired, pair⟩ := after_pair escape ']' _ cs
  · rw [pair]
    cases rest with
    | nil => rfl
    | cons c more =>
      by_cases colour : c = 'P'
      · subst colour
        rw [show palette? (escape :: ']' :: 'P' :: more) = digits? more from rfl]
        simp [after]
      · by_cases reset : c = 'R'
        · subst reset
          rfl
        · rw [palette?]
          · simp [after, colour, reset]
          · rintro other same
            simp [colour] at same
          · rintro other same
            simp [reset] at same
  · rw [pair, palette?]
    · exact fun rest => unpaired ('P' :: rest)
    · exact fun rest => unpaired ('R' :: rest)

theorem reads_palette : Reads Whole palette? := by
  have letter {d : Char} (quiet : Quiet d) (c : Char) (part : List Char)
      (member : (c == d) = true) (tail : Tail part) : Filled (c :: part) :=
    .cons (quiet.of_beq c member) tail
  have colour : Reads Filled (after (· == 'P') digits?) :=
    reads_digits.after (letter (quiet_of_toNat (by decide) (by decide)))
  have reset : Reads Filled (after (· == 'R') fun cs => some ((bellOrTerminator? cs).getD cs)) :=
    reads_optionalEnd.after (letter (quiet_of_toNat (by decide) (by decide)))
  have bracket : Quiet ']' := quiet_of_toNat (by decide) (by decide)
  rw [palette?_eq]
  exact ((colour.or reset).behind bracket.of_beq).first

theorem reads_sequence : Reads Whole sequence? := by
  have all := reads_palette.or
    (reads_command.or (reads_controlString.or (reads_control.or reads_escape)))
  have same : sequence? = fun cs => (palette? cs).or
      ((command? cs).or ((controlString? cs).or ((control? cs).or (escape? cs)))) := by
    funext cs
    simp [sequence?, Option.orElse_eq_orElse, Option.orElse_eq_or]
  rwa [same]

/-! ## The pattern -/

theorem sequence?_of_quiet {c : Char} (quiet : Quiet c) (rest : List Char) :
    sequence? (c :: rest) = none := by
  obtain ⟨unescaped, code⟩ := quiet
  simp [sequence?, palette?_eq, command?_eq, controlString?_eq, control?_eq, escape?_eq, after,
    startsString, unescaped, code]

theorem sequence?_terminator (rest : List Char) : sequence? (escape :: '\\' :: rest) = none := rfl

theorem remove_tail {part : List Char} (tail : Tail part) (left : List Char) :
    pattern.remove (part ++ left) = part ++ pattern.remove left := by
  have kept {c : Char} (quiet : Quiet c) (rest : List Char) :
      pattern.remove (c :: rest) = c :: pattern.remove rest :=
    Pattern.remove_of_none (sequence?_of_quiet quiet rest)
  induction tail with
  | nil => rfl
  | terminator =>
    show pattern.remove (escape :: '\\' :: left) = _
    rw [Pattern.remove_of_none (sequence?_terminator left),
      kept (quiet_of_toNat (by decide) (by decide))]
    rfl
  | cons quiet _ ih =>
    rw [List.cons_append, kept quiet, ih]
    rfl

theorem Tail.of_append {front part : List Char} (tail : Tail (front ++ part)) : Tail part := by
  induction front with
  | nil => exact tail
  | cons c rest ih =>
    apply ih
    rw [List.cons_append] at tail
    generalize rest ++ part = behind at tail
    cases tail with
    | terminator => exact .cons (quiet_of_toNat (by decide) (by decide)) .nil
    | cons _ more => exact more

theorem local_pattern : pattern.Local where
  takes taken := by
    obtain ⟨part, same, -⟩ := reads_sequence.takes taken
    exact ⟨part, same.symm⟩
  fails := reads_sequence.fails
  stops := reads_sequence.stops

/-- What is left of a sequence behind a cut holds no sequence, and begins none. -/
theorem tailsStay_pattern : pattern.TailsStay := by
  intro front part left started taken
  obtain ⟨whole, same, first, tail, rfl, quiet⟩ := reads_sequence.takes taken
  cases front with
  | nil => exact absurd rfl started
  | cons c rest =>
    have cut : rest ++ part = tail :=
      (List.cons.inj (List.append_cancel_right same)).2
    exact remove_tail (cut ▸ quiet).of_append left

theorem removedBy_strip : pattern.RemovedBy lookedFor strip := by
  intro text
  rw [strip, Pattern.removeFrom]
  split <;> simp

end ConsoleHarness.Text.Ansi
