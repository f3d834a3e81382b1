import ConsoleHarness.Text.Pattern

/-! # Terminal control sequences

A terminal takes some runs of characters as commands instead of text.  `Ansi.pattern` matches such
runs and `Ansi.strip` removes them from a text.

The kinds of sequences are tried in a fixed order; each reads as far as it can.
-/

namespace ConsoleHarness.Text.Ansi

def escape : Char := '\x1b'
def bell : Char := '\x07'

/-! ## Character classes -/

/-- Whether a character's code lies in a range. -/
def within (c : Char) (low high : Nat) : Bool := low ≤ c.toNat && c.toNat ≤ high

/-- The characters that break off a string sequence. -/
def breaksOff (c : Char) : Bool :=
  c == '\x18' || c == '\x1a' || c == escape || within c 0x80 0x9F

def isHex (c : Char) : Bool := within c 0x30 0x39 || within c 0x41 0x46 || within c 0x61 0x66

/-- The characters that make a sequence of two together with an escape character. -/
def endsPair (c : Char) : Bool :=
  within c 0x30 0x39 || within c 0x41 0x50 || within c 0x52 0x54 || c == 'Z' || c == 'c' ||
    within c 0x66 0x6F || within c 0x71 0x75 || c == 'y' || c == '=' || c == '>' || c == '<' ||
    c == '~' || c == '|' || c == '}'

/-! ## Parts of sequences

Each reader gives what is left of the text after the part it reads. -/

/-- What is left after the longest start of characters of a class. -/
def skip (inClass : Char → Bool) (cs : List Char) : List Char := cs.dropWhile inClass

/-- The terminator of a string sequence. -/
def terminator? : List Char → Option (List Char)
  | '\x1b' :: '\\' :: rest => some rest
  | c :: rest => if c.toNat = 0x9C then some rest else none
  | [] => none

/-- A terminator, or a bell. -/
def bellOrTerminator? : List Char → Option (List Char)
  | '\x07' :: rest => some rest
  | cs => terminator? cs

/-- One character of a class. -/
def one? (inClass : Char → Bool) : List Char → Option (List Char)
  | c :: rest => if inClass c then some rest else none
  | [] => none

/-! ## Sequences -/

/-- A palette sequence, which may do without a terminator. -/
def palette? : List Char → Option (List Char)
  | '\x1b' :: ']' :: 'P' :: rest =>
    if (rest.take 7).length = 7 ∧ (rest.take 7).all isHex then
      let rest := rest.drop 7
      some ((bellOrTerminator? rest).getD rest)
    else none
  | '\x1b' :: ']' :: 'R' :: rest => some ((bellOrTerminator? rest).getD rest)
  | _ => none

/-- The body and the end of a command for the operating system. -/
def commandBody? (cs : List Char) : Option (List Char) :=
  bellOrTerminator? (skip (fun c => c != bell && !breaksOff c) cs)

/-- A command for the operating system. -/
def command? : List Char → Option (List Char)
  | '\x1b' :: ']' :: rest => commandBody? rest
  | c :: rest => if c.toNat = 0x9D then commandBody? rest else none
  | [] => none

/-- The body and the end of a control string. -/
def stringBody? (cs : List Char) : Option (List Char) :=
  terminator? (skip (fun c => !breaksOff c) cs)

/-- A control string. -/
def controlString? : List Char → Option (List Char)
  | '\x1b' :: c :: rest =>
    if c == 'P' || c == 'X' || c == '^' || c == '_' || c == 'k' then stringBody? rest else none
  | c :: rest =>
    if c.toNat = 0x90 ∨ c.toNat = 0x98 ∨ c.toNat = 0x9E ∨ c.toNat = 0x9F then stringBody? rest
    else none
  | [] => none

/-- Parameters, intermediate characters and the end of a control sequence. -/
def parameters? (cs : List Char) : Option (List Char) :=
  one? (within · 0x40 0x7E) (skip (within · 0x20 0x2F) (skip (within · 0x30 0x3F) cs))

/-- A control sequence. -/
def control? : List Char → Option (List Char)
  | '\x1b' :: '[' :: rest => parameters? rest
  | c :: rest => if c.toNat = 0x9B then parameters? rest else none
  | [] => none

/-- An escape sequence of its own. -/
def escape? : List Char → Option (List Char)
  | '\x1b' :: c :: rest =>
    if within c 0x20 0x2F then one? (within · 0x30 0x7E) (skip (within · 0x20 0x2F) rest)
    else one? endsPair (c :: rest)
  | _ => none

/-- What is left after the sequence that a text starts with. -/
def sequence? (cs : List Char) : Option (List Char) :=
  palette? cs <|> command? cs <|> controlString? cs <|> control? cs <|> escape? cs

/-! ## Every sequence takes something -/

theorem length_skip_le (inClass : Char → Bool) (cs : List Char) :
    (skip inClass cs).length ≤ cs.length := by
  induction cs with
  | nil => simp [skip]
  | cons c rest ih =>
    simp only [skip, List.dropWhile_cons] at ih ⊢
    split
    · simp only [List.length_cons]; omega
    · simp

theorem length_terminator? {cs left : List Char} (h : terminator? cs = some left) :
    left.length < cs.length := by
  unfold terminator? at h
  split at h
  · simp at h; subst h; simp only [List.length_cons]; omega
  · split at h
    · simp at h; subst h; simp
    · simp at h
  · simp at h

theorem length_bellOrTerminator? {cs left : List Char} (h : bellOrTerminator? cs = some left) :
    left.length < cs.length := by
  unfold bellOrTerminator? at h
  split at h
  · simp at h; subst h; simp
  · exact length_terminator? h

theorem length_one? {inClass : Char → Bool} {cs left : List Char}
    (h : one? inClass cs = some left) : left.length < cs.length := by
  unfold one? at h
  split at h
  · split at h
    · simp at h; subst h; simp
    · simp at h
  · simp at h

theorem length_optionalEnd_le (cs : List Char) :
    ((bellOrTerminator? cs).getD cs).length ≤ cs.length := by
  cases h : bellOrTerminator? cs with
  | none => simp
  | some left => exact Nat.le_of_lt (length_bellOrTerminator? h)

theorem length_palette? {cs left : List Char} (h : palette? cs = some left) :
    left.length < cs.length := by
  unfold palette? at h
  split at h
  · rename_i rest
    split at h
    · simp only [Option.some.injEq] at h
      subst h
      have := length_optionalEnd_le (rest.drop 7)
      simp only [List.length_drop, List.length_cons] at this ⊢
      omega
    · simp at h
  · rename_i rest
    simp only [Option.some.injEq] at h
    subst h
    have := length_optionalEnd_le rest
    simp only [List.length_cons]
    omega
  · simp at h

theorem length_commandBody? {cs left : List Char} (h : commandBody? cs = some left) :
    left.length < cs.length :=
  Nat.lt_of_lt_of_le (length_bellOrTerminator? h) (length_skip_le _ cs)

theorem length_stringBody? {cs left : List Char} (h : stringBody? cs = some left) :
    left.length < cs.length :=
  Nat.lt_of_lt_of_le (length_terminator? h) (length_skip_le _ cs)

theorem length_parameters? {cs left : List Char} (h : parameters? cs = some left) :
    left.length < cs.length :=
  Nat.lt_of_lt_of_le (length_one? h)
    (Nat.le_trans (length_skip_le _ _) (length_skip_le _ cs))

theorem length_command? {cs left : List Char} (h : command? cs = some left) :
    left.length < cs.length := by
  unfold command? at h
  split at h
  · have := length_commandBody? h; simp only [List.length_cons]; omega
  · split at h
    · have := length_commandBody? h; simp only [List.length_cons]; omega
    · simp at h
  · simp at h

theorem length_controlString? {cs left : List Char} (h : controlString? cs = some left) :
    left.length < cs.length := by
  unfold controlString? at h
  split at h
  · split at h
    · have := length_stringBody? h; simp only [List.length_cons]; omega
    · simp at h
  · split at h
    · have := length_stringBody? h; simp only [List.length_cons]; omega
    · simp at h
  · simp at h

theorem length_control? {cs left : List Char} (h : control? cs = some left) :
    left.length < cs.length := by
  unfold control? at h
  split at h
  · have := length_parameters? h; simp only [List.length_cons]; omega
  · split at h
    · have := length_parameters? h; simp only [List.length_cons]; omega
    · simp at h
  · simp at h

theorem length_escape? {cs left : List Char} (h : escape? cs = some left) :
    left.length < cs.length := by
  unfold escape? at h
  split at h
  · rename_i c rest
    split at h
    · have := length_one? h
      have := length_skip_le (within · 0x20 0x2F) rest
      simp only [List.length_cons]
      omega
    · have := length_one? h
      simp only [List.length_cons] at this ⊢
      omega
  · simp at h

/-- A sequence has at least one character. -/
theorem length_sequence? {cs left : List Char} (h : sequence? cs = some left) :
    left.length < cs.length := by
  simp only [sequence?, Option.orElse_eq_orElse, Option.orElse_eq_or, Option.or_eq_some_iff] at h
  rcases h with h | ⟨-, h | ⟨-, h | ⟨-, h | ⟨-, h⟩⟩⟩⟩
  · exact length_palette? h
  · exact length_command? h
  · exact length_controlString? h
  · exact length_control? h
  · exact length_escape? h

/-! ## Stripping -/

/-- The pattern of control sequences. -/
def pattern : Pattern := ⟨sequence?, length_sequence?⟩

/-- The introducers that are looked for.  A text with none of them is left alone, whatever else it
holds. -/
def lookedFor (c : Char) : Bool := c == escape || c.toNat == 0x9B

/-- A text without its control sequences. -/
def strip (text : String) : String :=
  if text.toList.any lookedFor then pattern.removeFrom text else text

end ConsoleHarness.Text.Ansi
