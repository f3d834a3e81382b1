import ConsoleHarness.Session.Marker

/-! # Where a marker ends first

The naive reader appends one character after the other and asks each time whether the text so far
ends with the marker.  `Marker.Absent` says that it never did, `Marker.EndsFirst` that it did just
now.  The scan of a chunk through the window of the last characters finds the same place, however
the text was cut into chunks before.
-/

namespace ConsoleHarness.Marker

/-- No part of the text from its start on ends with the marker. -/
def Absent (marker text : List Char) : Prop := ∀ start, start <+: text → ¬ marker <:+ start

/-- The text ends with the marker, and no shorter part from its start on does. -/
def EndsFirst (marker text : List Char) : Prop :=
  marker <:+ text ∧ ∀ start, start <+: text → start ≠ text → ¬ marker <:+ start

/-- The last characters of a text, as many as the marker has. -/
def window (marker text : List Char) : List Char := text.drop (text.length - marker.length)

variable {marker text : List Char}

theorem absent_nil (filled : marker ≠ []) : Absent marker [] := by
  intro start before ends
  rw [List.prefix_nil.mp before, List.suffix_nil] at ends
  exact filled ends

theorem absent_concat {c : Char} (absent : Absent marker text)
    (unmarked : ¬ marker <:+ text ++ [c]) : Absent marker (text ++ [c]) := by
  intro start before
  rcases List.prefix_concat_iff.mp before with whole | shorter
  · rw [whole]; exact unmarked
  · exact absent start shorter

theorem endsFirst_concat {c : Char} (absent : Absent marker text)
    (marked : marker <:+ text ++ [c]) : EndsFirst marker (text ++ [c]) := by
  refine ⟨marked, fun start before other => ?_⟩
  rcases List.prefix_concat_iff.mp before with whole | shorter
  · exact absurd whole other
  · exact absent start shorter

/-! ## The window -/

@[simp] theorem window_nil : window marker [] = [] := by simp [window]

/-- Sliding the window over one more character gives the window of the longer text. -/
theorem slide_window (c : Char) :
    slide marker (window marker text) c = window marker (text ++ [c]) := by
  unfold slide window
  rw [List.length_drop, List.length_append, List.length_singleton]
  -- A window that is not full yet only grows; a full one loses its first character.
  by_cases short : text.length < marker.length
  · have whole : text.length - marker.length = 0 := by omega
    rw [whole, List.drop_zero, Nat.sub_zero]
  · have cut : text.length - marker.length ≤ text.length := by omega
    rw [← List.drop_append_of_le_length cut, List.drop_drop]
    congr 1
    omega

theorem window_eq_marker_iff : window marker text = marker ↔ marker <:+ text := by
  rw [List.suffix_iff_eq_drop]
  exact eq_comm

theorem windowAfter_window (chunk : List Char) :
    windowAfter marker (window marker text) chunk = window marker (text ++ chunk) := by
  induction chunk generalizing text with
  | nil => simp
  | cons c rest ih =>
    rw [windowAfter_cons, slide_window, ih, List.append_assoc, List.singleton_append]

/-! ## The scan of a chunk -/

/-- A scan that stops has found the first end of the marker. -/
theorem endsFirst_of_endIn? {chunk : List Char} {count stop : Nat} (absent : Absent marker text)
    (found : endIn? marker (window marker text) count chunk = some stop) :
    ∃ unit tail, chunk = unit ++ tail ∧ stop = count + unit.length ∧
      EndsFirst marker (text ++ unit) := by
  induction chunk generalizing text count with
  | nil => simp at found
  | cons c rest ih =>
    rw [endIn?_cons, slide_window] at found
    split at found
    · rename_i here
      refine ⟨[c], rest, rfl, (Option.some.inj found).symm, ?_⟩
      exact endsFirst_concat absent (window_eq_marker_iff.mp here)
    · -- Not here: the text is one character longer, and the marker still absent from it.
      rename_i there
      have further := absent_concat absent (fun marked => there (window_eq_marker_iff.mpr marked))
      obtain ⟨unit, tail, cut, stopped, ends⟩ := ih further found
      refine ⟨c :: unit, tail, by rw [cut]; rfl, ?_, ?_⟩
      · rw [stopped, List.length_cons]; omega
      · rw [List.append_assoc] at ends; exact ends

/-- A scan that runs through has passed no end of the marker. -/
theorem absent_of_endIn? {chunk : List Char} {count : Nat} (absent : Absent marker text)
    (missed : endIn? marker (window marker text) count chunk = none) :
    Absent marker (text ++ chunk) := by
  induction chunk generalizing text count with
  | nil => rwa [List.append_nil]
  | cons c rest ih =>
    rw [endIn?_cons, slide_window] at missed
    split at missed
    · contradiction
    · rename_i there
      have further := absent_concat absent (fun marked => there (window_eq_marker_iff.mpr marked))
      have last := ih further missed
      rwa [List.append_assoc] at last

/-! ## The naive reader -/

/-- The naive reader, with a text read before: it appends one character after the other until the
text ends with the marker.  It gives that text and the characters behind it. -/
def scan (marker text : List Char) : List Char → Option (List Char × List Char)
  | [] => none
  | c :: rest =>
    if marker <:+ text ++ [c] then some (text ++ [c], rest) else scan marker (text ++ [c]) rest

theorem scan_of_endsFirst {unit : List Char} (tail : List Char) (absent : Absent marker text)
    (ends : EndsFirst marker (text ++ unit)) :
    scan marker text (unit ++ tail) = some (text ++ unit, tail) := by
  induction unit generalizing text with
  | nil =>
    rw [List.append_nil] at ends
    exact absurd ends.1 (absent text List.prefix_rfl)
  | cons c rest ih =>
    rw [← List.singleton_append, ← List.append_assoc] at ends ⊢
    rw [List.append_assoc, List.singleton_append, scan]
    split
    · -- The scan stops here, so this is the whole text.
      rename_i here
      have whole : text ++ [c] = text ++ [c] ++ rest :=
        Decidable.byContradiction fun other => ends.2 _ (List.prefix_append _ _) other here
      have last : rest = [] := List.self_eq_append_right.mp whole
      rw [last, List.append_nil, List.nil_append]
    · rename_i there
      exact ih (absent_concat absent there) ends

theorem scan_of_absent {rest : List Char} (absent : Absent marker (text ++ rest)) :
    scan marker text rest = none := by
  induction rest generalizing text with
  | nil => rfl
  | cons c rest ih =>
    rw [← List.singleton_append, ← List.append_assoc] at absent
    rw [scan, if_neg (absent _ (List.prefix_append _ _))]
    exact ih absent

/-- What stands behind the place where the scan stops makes no difference to it. -/
theorem scan_append {chars found rest : List Char} (more : List Char)
    (stops : scan marker text chars = some (found, rest)) :
    scan marker text (chars ++ more) = some (found, rest ++ more) := by
  induction chars generalizing text with
  | nil => simp [scan] at stops
  | cons c behind ih =>
    rw [scan] at stops
    rw [List.cons_append, scan]
    split at stops
    · rename_i here
      obtain ⟨rfl, rfl⟩ := Prod.mk.inj (Option.some.inj stops)
      rw [if_pos here]
    · rename_i there
      rw [if_neg there]
      exact ih stops

end ConsoleHarness.Marker
