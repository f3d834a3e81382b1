import ConsoleHarness.Path

/-! # Normal paths

A path is normal if each of its segments can be the name of something in a folder.  Whatever text is
resolved against a normal path, the result is normal, and its text names it again from anywhere: so
resolving a second time changes nothing.

What the text of a path is cut into at its slashes are its segments, behind an empty piece
(`Path.pieces_slashed`); everything else follows from that.
-/

namespace ConsoleHarness.Path

/-- A text that can be the name of something in a folder. -/
structure IsSegment (name : String) : Prop where
  filled : name ≠ ""
  forward : name ≠ "."
  downward : name ≠ ".."
  whole : '/' ∉ name.toList

/-- Each segment of a path can be the name of something. -/
def IsNormal (p : Path) : Prop := ∀ segment ∈ p.segments, IsSegment segment

/-! ## Pieces -/

theorem pieces_ne_nil (text : List Char) : pieces text ≠ [] := by
  cases text with
  | nil => simp
  | cons c rest =>
    rw [pieces]
    split
    · simp
    · split <;> simp

theorem pieces_cons {c : Char} (inside : c ≠ '/') (rest : List Char) :
    pieces (c :: rest) = (pieces rest).modifyHead (c :: ·) := by
  rw [pieces, if_neg inside]
  cases cut : pieces rest with
  | nil => exact absurd cut (pieces_ne_nil rest)
  | cons piece more => rfl

/-- A text is cut at its slashes, and nowhere else. -/
theorem pieces_eq_splitOn (text : List Char) : pieces text = text.splitOn '/' := by
  induction text with
  | nil => rfl
  | cons c rest ih =>
    rw [List.splitOn, List.splitOnP_cons_eq_if_modifyHead]
    by_cases slash : c = '/'
    · subst slash
      rw [pieces_slash, ih]
      rfl
    · rw [pieces_cons slash, ih, if_neg (by simpa using slash)]
      rfl

theorem whole_of_mem_pieces {text piece : List Char} (cut : piece ∈ pieces text) : '/' ∉ piece := by
  induction text generalizing piece with
  | nil =>
    rw [pieces_nil, List.mem_singleton] at cut
    simp [cut]
  | cons c rest ih =>
    by_cases slash : c = '/'
    · subst slash
      rcases List.mem_cons.mp cut with rfl | later
      · simp
      · exact ih later
    · rw [pieces_cons slash] at cut
      cases parts : pieces rest with
      | nil => exact absurd parts (pieces_ne_nil rest)
      | cons first more =>
        rw [parts] at cut ih
        rcases List.mem_cons.mp cut with rfl | later
        · simp [Ne.symm slash, ih List.mem_cons_self]
        · exact ih (List.mem_cons_of_mem first later)

theorem intercalate_cons (first : List Char) (names : List (List Char)) :
    ['/'].intercalate (first :: names) = first ++ names.flatMap ('/' :: ·) := by
  induction names generalizing first with
  | nil => simp
  | cons name names ih =>
    rw [List.intercalate_cons_cons, ih name, List.flatMap_cons]
    simp

/-- Names with a slash before each of them are cut into these names, behind an empty piece. -/
theorem pieces_slashed {names : List (List Char)} (whole : ∀ name ∈ names, '/' ∉ name) :
    pieces (names.flatMap ('/' :: ·)) = [] :: names := by
  have joined := intercalate_cons [] names
  rw [List.nil_append] at joined
  rw [pieces_eq_splitOn, ← joined]
  exact List.splitOn_intercalate '/' (List.forall_mem_cons.mpr ⟨by simp, whole⟩) (by simp)

/-! ## Walking along pieces -/

section Walking

variable {p base : Path} {walked names : List String} {name text : String}

theorem step_segment (segment : IsSegment name) : step walked name = name :: walked := by
  rw [step, if_neg (by simp [segment.filled, segment.forward]), if_neg segment.downward]

theorem foldl_step_segments (segments : ∀ name ∈ names, IsSegment name) :
    names.foldl step walked = names.reverse ++ walked := by
  induction names generalizing walked with
  | nil => rfl
  | cons name names ih =>
    obtain ⟨first, more⟩ := List.forall_mem_cons.mp segments
    rw [List.foldl_cons, step_segment first, ih more, List.reverse_cons, List.append_assoc]
    rfl

/-- A step along any piece keeps the path normal. -/
theorem segments_step (normal : ∀ segment ∈ walked, IsSegment segment)
    (whole : '/' ∉ name.toList) : ∀ segment ∈ step walked name, IsSegment segment := by
  unfold step
  split
  · exact normal
  · rename_i named
    obtain ⟨filled, forward⟩ := not_or.mp named
    split
    · exact fun segment member => normal segment (List.mem_of_mem_tail member)
    · rename_i downward
      exact List.forall_mem_cons.mpr ⟨⟨filled, forward, downward, whole⟩, normal⟩

theorem segments_foldl_step (normal : ∀ segment ∈ walked, IsSegment segment)
    (whole : ∀ name ∈ names, '/' ∉ name.toList) :
    ∀ segment ∈ names.foldl step walked, IsSegment segment := by
  induction names generalizing walked with
  | nil => exact normal
  | cons name names ih =>
    obtain ⟨first, more⟩ := List.forall_mem_cons.mp whole
    exact ih (segments_step normal first) more

/-- Whatever is resolved against a normal path gives a normal path. -/
theorem isNormal_resolve (normal : base.IsNormal) (text : String) :
    (base.resolve text).IsNormal := by
  have start : ∀ segment ∈ (if text.toList.head? = some '/' then [] else base.segments.reverse),
      IsSegment segment := by
    split
    · simp
    · exact fun segment member => normal segment (List.mem_reverse.mp member)
  have whole : ∀ name ∈ (pieces text.toList).map String.ofList, '/' ∉ name.toList := by
    rintro name member
    obtain ⟨piece, cut, rfl⟩ := List.mem_map.mp member
    rw [String.toList_ofList]
    exact whole_of_mem_pieces cut
  intro segment member
  exact segments_foldl_step start whole segment (List.mem_reverse.mp member)

theorem isNormal_ofText (text : String) : (ofText text).IsNormal :=
  isNormal_resolve (by simp [IsNormal, root]) text

/-! ## The text of a normal path -/

theorem toList_text (filled : p.segments ≠ []) :
    p.text.toList = (p.segments.map String.toList).flatMap ('/' :: ·) := by
  rw [Path.text, if_neg (by simpa using filled), String.toList_join, List.flatMap_map,
    List.flatMap_map]
  simp

theorem IsNormal.pieces_text (normal : p.IsNormal) (filled : p.segments ≠ []) :
    pieces p.text.toList = [] :: p.segments.map String.toList := by
  rw [toList_text filled]
  refine pieces_slashed fun name member => ?_
  obtain ⟨segment, here, rfl⟩ := List.mem_map.mp member
  exact (normal segment here).whole

/-- The text of a normal path names it, wherever it is seen from. -/
theorem IsNormal.resolve_text (normal : p.IsNormal) (base : Path) : base.resolve p.text = p := by
  by_cases empty : p.segments = []
  · obtain ⟨segments⟩ := p
    subst empty
    rfl
  · have absolute : p.text.toList.head? = some '/' := by
      obtain ⟨first, rest, same⟩ := List.exists_cons_of_ne_nil empty
      rw [toList_text empty, same]
      rfl
    have named : (p.segments.map String.toList).map String.ofList = p.segments := by simp
    rw [resolve, if_pos absolute, normal.pieces_text empty, List.map_cons, named, List.foldl_cons]
    have walked : p.segments.foldl step (step [] (String.ofList [])) =
        p.segments.reverse ++ step [] (String.ofList []) := foldl_step_segments normal
    rw [walked]
    simp [step]

end Walking

end ConsoleHarness.Path
