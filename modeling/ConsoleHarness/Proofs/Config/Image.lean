import ConsoleHarness.Proofs.Config.Precedence

/-! # Which kernel image is run

The kernel image that the command line or the environment asks for (`Sources.Asks`) takes one of two
ways into the arguments of the emulator: they are made for it, or, if the file spells them out, it is
put in behind their first flag.  On both it is the image that is run (`Emulator.imageOf?`), but for an
empty text, which is taken on the first way and lost on the second
(`Sources.empty_image_gets_lost`).
-/

namespace ConsoleHarness

/-! ## The image in some arguments -/

namespace Emulator

/-- The kernel image that some arguments run: the argument behind their first flag. -/
def imageOf? : List String → Option String
  | [] => none
  | arg :: rest => if arg = imageFlag then rest.head? else imageOf? rest

theorem imageOf?_argsFor (image : String) : imageOf? (argsFor image) = some image := by
  simp [argsFor, imageOf?, imageFlag]

theorem imageOf?_withImage (image : String) (args : List String) :
    imageOf? (withImage image args) = some image := by
  induction args with
  | nil => simp [withImage, imageOf?]
  | cons arg rest ih =>
    rw [withImage]
    by_cases flag : arg = imageFlag
    · simp [flag, imageOf?]
    · simp [flag, imageOf?, ih]

end Emulator

/-! ## The image that is asked for -/

namespace Sources

/-- The command line asks for a kernel image, or, if it says nothing of one, the environment does. -/
def Asks (s : Sources) (image : String) : Prop :=
  s.overrides.kernelImage = some image ∨
    s.overrides.kernelImage = none ∧ s.env.Sets Environment.imageVariable image

theorem image?_eq_some_iff {s : Sources} {image : String} :
    s.image? = some image ↔ s.Asks image := by
  have environment : s.env.layer.emulatorPart.kernelImage = some image ↔
      s.env.Sets Environment.imageVariable image := Environment.setting?_eq_some_iff
  rw [image?, Asks, ← environment]
  cases s.overrides.kernelImage <;> simp

theorem image?_eq_none_iff {s : Sources} : s.image? = none ↔ ∀ image, ¬ s.Asks image := by
  simp only [← image?_eq_some_iff]
  exact Option.eq_none_iff_forall_not_mem

/-- Where a configuration is loaded, its arguments run the kernel image that is asked for, if the file
has no arguments or the image is not empty: they are made for it, or the file's with the image put in.
If an empty image is asked for, or none, arguments of the file are taken as they are; without them
and with no image asked for, the arguments are made for the file's image or the default. -/
theorem image_is_run {s : Sources} {loaded : Loaded} (done : s.load = .ok loaded) :
    ∃ document given own, s.document = .ok document ∧
      Kind.texts.Gives ((document.getD .null).find ["emulator", "args"]) given ∧
      Kind.text.Gives ((document.getD .null).find ["emulator", "kernelImage"]) own ∧
      (∀ image, s.Asks image →
        (given = none ∨ image ≠ "" →
          Emulator.imageOf? loaded.config.emulator.args = some image) ∧
        (given = none → loaded.config.emulator.args = Emulator.argsFor image) ∧
        ∀ args, given = some args → loaded.config.emulator.args =
          if image = "" then args else Emulator.withImage image args) ∧
      ((∀ image, ¬ s.Asks image) → loaded.config.emulator.args =
        given.getD (Emulator.argsFor (own.getD Emulator.defaultImage))) := by
  obtain ⟨document, file, found, config, fields⟩ := load_spec done
  have resolved := args_merge s file s.cwd
  rw [← config] at resolved
  refine ⟨document, file.emulatorPart.args, file.emulatorPart.kernelImage, found,
    (fields .args).2, (fields .kernelImage).2, fun image asked => ?_, fun unasked => ?_⟩
  · rw [image?_eq_some_iff.mpr asked] at resolved
    cases given : file.emulatorPart.args with
    | none =>
      rw [given] at resolved
      have made : loaded.config.emulator.args = Emulator.argsFor image := resolved
      refine ⟨fun _ => ?_, fun _ => made, fun args => nofun⟩
      rw [made, Emulator.imageOf?_argsFor]
    | some args =>
      rw [given] at resolved
      have put : loaded.config.emulator.args =
          if image = "" then args else Emulator.withImage image args := by simpa using resolved
      refine ⟨?_, nofun, ?_⟩
      · rintro (missing | filled)
        · contradiction
        · rw [put, if_neg filled, Emulator.imageOf?_withImage]
      · rintro _ ⟨⟩
        exact put
  · rw [image?_eq_none_iff.mpr unasked] at resolved
    rw [resolved]
    cases file.emulatorPart.args <;> rfl

/-- A file that spells the arguments out, and an environment that asks for another image. -/
def redirected : Sources where
  files :=
    { tree := .folder [("harness.yaml", .file "emulator:\n  args: [-nographic, -kernel, a.elf]\n")] }
  env := [(Environment.imageVariable, " c.elf ")]

/-- The image of the file gives way to that of the environment. -/
theorem image_is_run_redirected :
    ∃ loaded, redirected.load = .ok loaded ∧
      Emulator.imageOf? loaded.config.emulator.args = some "c.elf" := by
  have succeeds : redirected.load.isOk = true := by decide +kernel
  cases done : redirected.load with
  | error refusal =>
    rw [done] at succeeds
    contradiction
  | ok loaded =>
    obtain ⟨document, given, own, -, -, -, asked, -⟩ := image_is_run done
    have sets : redirected.Asks "c.elf" :=
      .inr ⟨rfl, " c.elf ", by decide, by decide +kernel, by decide⟩
    exact ⟨loaded, rfl, (asked "c.elf" sets).1 (.inr (by decide))⟩

/-- The same with an empty image on the command line. -/
def emptied : Sources := { redirected with overrides := { kernelImage := some "" } }

/-- The empty image keeps that of the environment away, but then it is not put into the arguments of
the file: these still run the image they came with.  Without the file the empty image is taken. -/
theorem empty_image_gets_lost :
    emptied.Asks "" ∧
      (∃ loaded, emptied.load = .ok loaded ∧
        loaded.config.emulator.args = ["-nographic", "-kernel", "a.elf"] ∧
        Emulator.imageOf? loaded.config.emulator.args = some "a.elf") ∧
      ∃ loaded, { emptied with files := {} }.load = .ok loaded ∧
        Emulator.imageOf? loaded.config.emulator.args = some "" := by
  have loads (s : Sources) (args : List String)
      (same : s.load.toOption.map (fun loaded => loaded.config.emulator.args) = some args) :
      ∃ loaded, s.load = .ok loaded ∧ loaded.config.emulator.args = args := by
    cases done : s.load with
    | error refusal => simp [done, Except.toOption] at same
    | ok loaded => exact ⟨loaded, rfl, by simpa [done, Except.toOption] using same⟩
  obtain ⟨loaded, done, kept⟩ :=
    loads emptied ["-nographic", "-kernel", "a.elf"] (by decide +kernel)
  obtain ⟨other, otherDone, made⟩ :=
    loads { emptied with files := {} } (Emulator.argsFor "") (by decide +kernel)
  refine ⟨.inl rfl, ⟨loaded, done, kept, by rw [kept]; decide⟩, other, otherDone, ?_⟩
  rw [made, Emulator.imageOf?_argsFor]

end Sources

end ConsoleHarness
