import ConsoleHarness.Proofs.Config.Safe
import ConsoleHarness.Proofs.Files
import ConsoleHarness.Proofs.Path
import ConsoleHarness.Text.Utf8

/-! # Where the artifact lands

A configuration names its artifact and the working directory of its emulator by normal paths from
the root, however they were given.  So the path of the artifact, which is resolved once more when the
transcript is kept, stays what it was, wherever the process is by then.
-/

namespace ConsoleHarness

/-- A text that spells a path from the root without detours. -/
structure Path.Normalised (text : String) : Prop where
  absolute : IsAbsolute text
  direct : text ≠ "/" → ∀ piece ∈ (text.toList.splitOn '/').tail,
    piece ≠ [] ∧ piece ≠ ['.'] ∧ piece ≠ ['.', '.']
  unslashed : text ≠ "/" → text.toList.getLast? ≠ some '/'

theorem Path.IsNormal.normalised {p : Path} (normal : p.IsNormal) : Normalised p.text := by
  by_cases empty : p.segments = []
  · obtain ⟨segments⟩ := p
    subst empty
    exact ⟨rfl, absurd rfl, absurd rfl⟩
  · refine ⟨isAbsolute_text p, fun _ => ?_, fun _ slashed => ?_⟩
    · rw [← pieces_eq_splitOn, normal.pieces_text empty, List.tail_cons]
      rintro piece member
      obtain ⟨segment, here, rfl⟩ := List.mem_map.mp member
      obtain ⟨filled, forward, downward, -⟩ := normal segment here
      exact ⟨by simpa using filled, fun same => forward (String.toList_inj.mp same),
        fun same => downward (String.toList_inj.mp same)⟩
    · -- The last character is one of the last segment.
      obtain ⟨front, last, same⟩ := (List.eq_nil_or_concat' p.segments).resolve_left empty
      obtain ⟨filled, -, -, whole⟩ := normal last (by simp [same])
      have nonempty : last.toList ≠ [] := by simpa using filled
      obtain ⟨rest, ends⟩ : ∃ rest, p.text.toList = rest ++ last.toList :=
        ⟨(front.map String.toList).flatMap ('/' :: ·) ++ ['/'], by rw [toList_text empty, same]; simp⟩
      rw [ends, List.getLast?_append_of_ne_nil _ nonempty] at slashed
      exact whole (List.mem_of_getLast? slashed)

/-! ## Files as others see them -/

namespace Files

variable {files : Files} {path : Path} {content : String}

/-- The bytes of a file. -/
def bytes (files : Files) (path : Path) : Except FileError (List UInt8) :=
  (files.read path).map Text.encode

/-- Something keeps a file from being written: a file where a folder has to be, or a folder in its own
place. -/
def Obstructs (files : Files) (path : Path) : Prop :=
  (∃ folder content, folder.segments <+: path.parent.segments ∧ files.read folder = .ok content) ∨
    files.read path = .error ⟨.isFolder, .reading⟩

theorem read_eq_ok_iff :
    files.read path = .ok content ↔ files.tree.find path.segments = .ok (.file content) := by
  unfold read
  split <;> simp_all

theorem read_eq_isFolder_iff : files.read path = .error ⟨.isFolder, .reading⟩ ↔
    ∃ entries, files.tree.find path.segments = .ok (.folder entries) := by
  unfold read
  split <;> simp_all

theorem obstructs_iff : files.Obstructs path ↔ files.tree.Blocks path.segments := by
  unfold Obstructs Node.Blocks
  simp only [read_eq_ok_iff, read_eq_isFolder_iff]
  refine or_congr_left ⟨?_, ?_⟩
  · rintro ⟨folder, content, on, found⟩
    exact ⟨folder.segments, content, on, found⟩
  · rintro ⟨way, content, on, found⟩
    exact ⟨⟨way⟩, content, on, found⟩

end Files

/-! ## Keeping the artifact -/

namespace Artifact

variable {files after : Files} {base path target : Path} {transcript : String}

theorem persist_text_eq_ok_iff (normal : target.IsNormal) :
    persist files base target.text transcript = (after, .ok path) ↔
      path = target ∧ files.tree.keep transcript target.segments = .ok after.tree := by
  rw [persist_eq_ok_iff, normal.resolve_text base]

/-- A transcript can be kept unless something is in the way of its file. -/
theorem exists_persist_iff (normal : target.IsNormal) :
    (∃ after path, persist files base target.text transcript = (after, .ok path)) ↔
      ¬ files.Obstructs target := by
  have keeps : (∃ tree, files.tree.keep transcript target.segments = .ok tree) ↔
      ¬ files.Obstructs target :=
    Node.exists_keep_iff.trans (not_congr Files.obstructs_iff.symm)
  rw [← keeps]
  simp only [persist_text_eq_ok_iff normal, exists_eq_left]
  constructor
  · rintro ⟨after, kept⟩
    exact ⟨after.tree, kept⟩
  · rintro ⟨tree, kept⟩
    exact ⟨⟨tree⟩, kept⟩

/-- What is left when a transcript was kept. -/
structure Kept (files : Files) (target : Path) (transcript : String) (after : Files) : Prop where
  bytes : after.bytes target = .ok (Text.encode transcript)
  folders : ∀ folder : Path, folder.segments <+: target.parent.segments →
    after.read folder = .error ⟨.isFolder, .reading⟩
  others : ∀ other content, other ≠ target →
    (after.read other = .ok content ↔ files.read other = .ok content)

theorem kept_of_keep (kept : files.tree.keep transcript target.segments = .ok after.tree) :
    Kept files target transcript after where
  bytes := by
    rw [Files.bytes, Files.read_eq_ok_iff.mpr (Node.find_keep kept)]
    rfl
  folders := by
    intro folder on
    have filled : target.segments ≠ [] := by
      intro empty
      rw [empty] at kept
      exact Node.keep_nil_ne_ok kept
    obtain ⟨more, same⟩ := on
    have above : target.segments.dropLast = folder.segments ++ more := same.symm
    have found := Node.find_keep kept
    rw [← List.dropLast_append_getLast filled, above, List.append_assoc] at found
    exact Files.read_eq_isFolder_iff.mpr (Node.find_of_isPrefix (by simp) found)
  others := by
    intro other content differs
    rw [Files.read_eq_ok_iff, Files.read_eq_ok_iff]
    refine Node.find_keep_of_ne kept (fun same => differs ?_) content
    cases other
    cases target
    exact congrArg _ same

end Artifact

/-- The artifact and the working directory of the emulator are what the layers name, or the default,
as seen from the given directory.  They are configured as normal paths from the root, however this
is spelled; seen from anywhere they are the same.  So the transcript is kept at the configured path,
from whatever directory that is done.  It can be kept unless something stands in the way; then the
file holds its bytes, whatever it held before, it lies in folders, and all other files are as they
were. -/
theorem artifact_lands_as_configured (layer : Layer) (cwd : String) :
    ∃ dir target : Path,
      dir = (Path.ofText cwd).resolve (layer.emulatorPart.cwd.getD ".") ∧
      target = (Path.ofText cwd).resolve (layer.artifactPath.getD Artifact.defaultName) ∧
      (layer.resolve (.ofText cwd)).emulator.cwd = some dir.text ∧
      (layer.resolve (.ofText cwd)).artifactPath = target.text ∧
      Path.Normalised dir.text ∧ Path.Normalised target.text ∧
      (∀ base : Path, base.resolve dir.text = dir ∧ base.resolve target.text = target) ∧
      ∀ (files : Files) (base : Path) (transcript : String),
        (∀ other, Artifact.persist files other target.text transcript =
          Artifact.persist files base target.text transcript) ∧
        ((∃ after path, Artifact.persist files base target.text transcript = (after, .ok path)) ↔
          ¬ files.Obstructs target) ∧
        ∀ after path, Artifact.persist files base target.text transcript = (after, .ok path) →
          path = target ∧ Artifact.Kept files target transcript after := by
  have directory := Path.isNormal_resolve (Path.isNormal_ofText cwd)
    (layer.emulatorPart.cwd.getD ".")
  have artifact := Path.isNormal_resolve (Path.isNormal_ofText cwd)
    (layer.artifactPath.getD Artifact.defaultName)
  refine ⟨_, _, rfl, rfl, rfl, rfl, directory.normalised, artifact.normalised,
    fun base => ⟨directory.resolve_text base, artifact.resolve_text base⟩,
    fun files base transcript => ⟨fun other => ?_, Artifact.exists_persist_iff artifact, ?_⟩⟩
  · rw [Artifact.persist, Artifact.persist, artifact.resolve_text, artifact.resolve_text]
  · intro after path kept
    obtain ⟨same, walked⟩ := (Artifact.persist_text_eq_ok_iff artifact).mp kept
    exact ⟨same, Artifact.kept_of_keep walked⟩

end ConsoleHarness
