import ConsoleHarness.Proofs.Bench.Fidelity
import ConsoleHarness.Proofs.Text.Ansi

/-! # What the plain mirror shows

The plain mirror removes control sequences from each unit of output by itself.  What it shows is the
output without its control sequences if the output was cleanly cut (`Pattern.CleanlyCut`).  If not,
a sequence that is cut in two is shown.

What a control sequence is, and how sequences are removed, is left open: any pattern that looks at
nothing but the part that it matches will do.
-/

namespace ConsoleHarness

open Text

/-- What a mirror shows of some units, as one text. -/
def MirrorMode.shown (mode : MirrorMode) (strip : String → String) (units : List String) : String :=
  String.join (units.filterMap (mode.show? strip))

theorem shown_plain (strip : String → String) (units : List String) :
    MirrorMode.plain.shown strip units = String.join (units.map strip) := by
  induction units with
  | nil => rfl
  | cons unit rest ih =>
    rw [List.map_cons, String.join_cons, ← ih, MirrorMode.shown, List.filterMap_cons,
      MirrorMode.show?]
    by_cases empty : strip unit = ""
    · simp [MirrorMode.shown, empty]
    · simp [MirrorMode.shown, empty]

/-- Without a console the standard output is what the mirror shows. -/
theorem stdout_eq_shown (mode : MirrorMode) (strip : String → String) (history : List Entry) :
    Show.stdout { mirror := mode, console := false, strip } history =
      mode.shown strip (history.filterMap (·.event.unit?)) := by
  induction history with
  | nil => rfl
  | cons entry rest ih =>
    rw [Show.stdout, List.map_cons, String.join_cons, ← Show.stdout, ih]
    cases kind : entry.event with
    | recorded unit =>
      have recorded : entry.event.unit? = some unit := by rw [kind]; rfl
      rw [List.filterMap_cons_some (f := fun entry : Entry => entry.event.unit?) recorded]
      simp only [MirrorMode.shown, List.filterMap_cons, Show.output]
      cases mode.show? strip unit <;> simp
    | _ => simp [kind, Event.unit?, Show.output]

/-- Units of output are shown as their text stripped as a whole if the text was cleanly cut.  If it
was not, and what a match has behind a cut stays in the text, more is shown; so is any match that
is cut into parts without a match.  The same holds in every session: the transcript alone does not
tell what the plain mirror shows. -/
theorem plain_mirror_needs_clean_cuts {p : Pattern} {lookedFor : Char → Bool}
    {strip : String → String} (removes : p.RemovedBy lookedFor strip) (sees : p.Local)
    (units : List String) (target : Target) (calls : List (Bool × Call)) :
    (p.CleanlyCut lookedFor units →
        MirrorMode.plain.shown strip units = strip (String.join units)) ∧
      (p.TailsStay → ¬ p.CleanlyCut lookedFor units →
        (strip (String.join units)).length < (MirrorMode.plain.shown strip units).length) ∧
      (∀ front behind : String, p.behind? (front ++ behind).toList = some [] →
        (front ++ behind).toList.any lookedFor = true →
        p.remove front.toList = front.toList → p.remove behind.toList = behind.toList →
          MirrorMode.plain.shown strip [front, behind] = front ++ behind ∧
            strip (front ++ behind) = "") ∧
      (p.CleanlyCut lookedFor ((Bench.launch target).calls calls).units →
        Show.stdout { mirror := .plain, console := false, strip }
            ((Bench.launch target).calls calls).history =
          strip ((Bench.launch target).calls calls).session.transcript.text) ∧
      (p.TailsStay → ¬ p.CleanlyCut lookedFor ((Bench.launch target).calls calls).units →
        (strip ((Bench.launch target).calls calls).session.transcript.text).length <
          (Show.stdout { mirror := .plain, console := false, strip }
            ((Bench.launch target).calls calls).history).length) := by
  have either (units : List String) :
      (p.CleanlyCut lookedFor units →
          MirrorMode.plain.shown strip units = strip (String.join units)) ∧
        (p.TailsStay → ¬ p.CleanlyCut lookedFor units →
          (strip (String.join units)).length < (MirrorMode.plain.shown strip units).length) := by
    rw [shown_plain]
    obtain ⟨clean, same⟩ | ⟨crossed, more⟩ := removes.units sees units
    · exact ⟨fun _ => same, fun _ crossed => absurd clean crossed⟩
    · exact ⟨fun clean => absurd clean crossed, fun stays _ => more stays⟩
  -- The transcript of a session is made of the units that were consumed.
  have recorded : ((Bench.launch target).calls calls).session.transcript.text =
      String.join ((Bench.launch target).calls calls).units :=
    (Bench.recorded_of_shows (.inr ⟨rfl, rfl⟩)).mirrored
  rw [recorded, stdout_eq_shown]
  refine ⟨(either units).1, (either units).2, ?_, either ((Bench.launch target).calls calls).units⟩
  intro front behind whole found free freeToo
  refine ⟨?_, removes.eq_empty whole found⟩
  rw [shown_plain, List.map_cons, List.map_cons, removes.eq_self free, removes.eq_self freeToo]
  simp

/-- A session whose target writes the given parts, and a caller who consumes them one by one. -/
def speaker (parts : List String) : Target :=
  { events := parts.map fun part => ⟨some 1, .emit part.toUTF8.toList⟩ }

def listening (parts : List String) : List (Bool × Call) :=
  (true, .start) :: (true, .advance 2) ::
    parts.flatMap fun part => [(true, .takeChunk), (true, .record part)]

def spoken (parts : List String) : Bench := (Bench.launch (speaker parts)).calls (listening parts)

namespace Coloured

open Pattern

theorem cleanlyCut : Ansi.pattern.CleanlyCut Ansi.lookedFor ["\x1b[31m", "red"] := by
  refine fun _ => ⟨cutBetween_cons.mpr ⟨?_, cutBetween_cons.mpr ⟨?_, cutBetween_nil⟩⟩,
    by decide +kernel⟩
  · exact .found (by decide +kernel) .here
  · show Ansi.pattern.Reaches ['r', 'e', 'd'] []
    exact .character rfl (.character rfl (.character rfl .here))

theorem not_cleanlyCut : ¬ Ansi.pattern.CleanlyCut Ansi.lookedFor ["\x1b", "[31mred"] := by
  intro clean
  have reaches := (cutBetween_cons.mp (clean (by decide +kernel)).1).1
  -- The only way through the text leads over the whole sequence, past the cut.
  have taken : Ansi.pattern.behind? (String.join ["\x1b", "[31mred"]).toList =
      some ['r', 'e', 'd'] := by decide +kernel
  rw [Reaches.of_some taken (by decide +kernel)] at reaches
  exact absurd reaches.length_le (by decide +kernel)

end Coloured

/-- Between sequences the output may be cut.  Inside a sequence a cut lets it show. -/
theorem plain_mirror_needs_clean_cuts_coloured :
    MirrorMode.plain.shown Ansi.strip ["\x1b[31m", "red"] =
        Ansi.strip (String.join ["\x1b[31m", "red"]) ∧
      (MirrorMode.plain.shown Ansi.strip ["\x1b", "[31m"] = "\x1b[31m" ∧
        Ansi.strip "\x1b[31m" = "") ∧
      (Ansi.strip (spoken ["\x1b", "[31mred"]).session.transcript.text).length <
        (Show.stdout { mirror := .plain, console := false }
          (spoken ["\x1b", "[31mred"]).history).length := by
  obtain ⟨clean, -, parts, -, crossed⟩ :=
    plain_mirror_needs_clean_cuts Ansi.removedBy_strip Ansi.local_pattern ["\x1b[31m", "red"]
      (speaker ["\x1b", "[31mred"]) (listening ["\x1b", "[31mred"])
  have units : (spoken ["\x1b", "[31mred"]).units = ["\x1b", "[31mred"] := by decide +kernel
  rw [← spoken, units] at crossed
  have broken := parts "\x1b" "[31m" (by decide +kernel) (by decide +kernel) (by decide +kernel)
    (by decide +kernel)
  exact ⟨clean Coloured.cleanlyCut, broken, crossed Ansi.tailsStay_pattern Coloured.not_cleanlyCut⟩

/-- A sequence in one unit is removed; cut in two it is shown, with the same transcript, although
every leftmost match is removed of each text. -/
theorem cut_sequence_is_shown :
    Ansi.pattern.RemovedBy (fun _ => true) Ansi.pattern.removeFrom ∧
      MirrorMode.plain.shown Ansi.pattern.removeFrom ["\x1b", "[31mred"] = "\x1b[31mred" ∧
      Ansi.pattern.removeFrom (String.join ["\x1b", "[31mred"]) = "red" ∧
      (spoken ["\x1b[31mred"]).session.transcript.text =
        (spoken ["\x1b", "[31mred"]).session.transcript.text ∧
      Show.stdout { mirror := .plain, console := false, strip := Ansi.pattern.removeFrom }
          (spoken ["\x1b[31mred"]).history = "red" ∧
      Show.stdout { mirror := .plain, console := false, strip := Ansi.pattern.removeFrom }
          (spoken ["\x1b", "[31mred"]).history = "\x1b[31mred" := by
  refine ⟨Pattern.removedBy_any.mpr fun _ => String.toList_ofList, ?_⟩
  decide +kernel

end ConsoleHarness
