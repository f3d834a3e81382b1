import ConsoleHarness.Report.Artifact

/-! # Files that were written

What was written to a path is read from it afterwards.  Writing a file and the folders that it lies
in is one walk along its path (`Node.keep_cons_eq_ok_iff`): it gets through unless something of the wrong kind
stands there (`Node.Blocks`), and it touches no other file.
-/

namespace ConsoleHarness

namespace Node

variable {name : String} {node : Node} {entries : List (String × Node)}

theorem child?_setChild : child? name (setChild name node entries) = some node := by
  induction entries with
  | nil => simp [setChild, child?]
  | cons entry rest ih =>
    obtain ⟨other, old⟩ := entry
    unfold setChild
    split
    · simp [child?]
    · rename_i different
      simp [child?, different, ih]

theorem find_putFile {content : String} {path : List String} {before after : Node}
    (put : before.putFile content path = .ok after) : after.find path = .ok (.file content) := by
  induction path generalizing before after with
  | nil =>
    cases before with
    | file old => rw [← Except.ok.inj put]; rfl
    | folder entries => simp [putFile] at put
  | cons name rest ih =>
    cases before with
    | file old => simp [putFile] at put
    | folder entries =>
      rw [putFile] at put
      split at put
      · split at put
        · rename_i last
          rw [← Except.ok.inj put, List.isEmpty_iff.mp last, find, child?_setChild]
          rfl
        · contradiction
      · rename_i next _
        split at put
        · contradiction
        · rename_i made done
          rw [← Except.ok.inj put, find, child?_setChild]
          exact ih done

/-! ## A file with the folders that it lies in -/

theorem child?_setChild_of_ne {other : String} (differs : other ≠ name) :
    child? other (setChild name node entries) = child? other entries := by
  induction entries with
  | nil => simp [setChild, child?, differs]
  | cons entry rest ih =>
    obtain ⟨first, old⟩ := entry
    unfold setChild
    split
    · rename_i same
      subst same
      simp [child?, differs]
    · simp [child?, ih]

theorem setChild_setChild {next : Node} :
    setChild name next (setChild name node entries) = setChild name next entries := by
  induction entries with
  | nil => simp [setChild]
  | cons entry rest ih =>
    obtain ⟨first, old⟩ := entry
    by_cases same : name = first
    · simp [setChild, same]
    · simp [setChild, same, ih]

/-- The tree with a file at the end of a path, and with all folders on the way to it. -/
def keep (node : Node) (content : String) (path : List String) : Except FileProblem Node :=
  match node.makeFolders path.dropLast with
  | .error problem => .error problem
  | .ok made => made.putFile content path

section Keep

variable {content : String} {path way rest : List String} {after : Node}

theorem keep_nil_ne_ok : node.keep content [] ≠ .ok after := by
  cases node <;> exact nofun

theorem keep_file_ne_ok {old : String} : (file old).keep content path ≠ .ok after := by
  unfold keep
  cases path.dropLast <;> exact nofun

theorem keep_last_eq_ok_iff : (folder entries).keep content [name] = .ok after ↔
    (∀ inside, child? name entries ≠ some (.folder inside)) ∧
      .folder (setChild name (.file content) entries) = after := by
  change putFile (.folder entries) content [name] = _ ↔ _
  rw [putFile]
  cases child? name entries with
  | none => simp
  | some next => cases next <;> simp [putFile]

/-- Below the first folder of the way the walk goes on as from there. -/
theorem keep_cons_eq_ok_iff (more : rest ≠ []) :
    (folder entries).keep content (name :: rest) = .ok after ↔
      ∃ next, ((child? name entries).getD (.folder [])).keep content rest = .ok next ∧
        .folder (setChild name next entries) = after := by
  unfold keep
  rw [List.dropLast_cons_of_ne_nil more, makeFolders]
  cases ((child? name entries).getD (.folder [])).makeFolders rest.dropLast with
  | error problem => simp
  | ok next =>
    dsimp only
    rw [putFile, child?_setChild]
    dsimp only
    cases next.putFile content rest with
    | error problem => simp
    | ok last => simp [setChild_setChild]

theorem find_keep (kept : node.keep content path = .ok after) :
    after.find path = .ok (.file content) := by
  unfold keep at kept
  split at kept
  · contradiction
  · exact find_putFile kept

/-- What keeps a file from being written at the end of a path: a file where a folder has to be, or a
folder in its own place. -/
def Blocks (node : Node) (path : List String) : Prop :=
  (∃ way content, way <+: path.dropLast ∧ node.find way = .ok (.file content)) ∨
    ∃ entries, node.find path = .ok (.folder entries)

theorem find_cons : (folder entries).find (name :: rest) =
    match child? name entries with
    | none => .error .missing
    | some next => next.find rest := rfl

/-- A folder that is missing might as well be there, and empty. -/
theorem find_getD (more : way ≠ []) :
    ((child? name entries).getD (.folder [])).find way = (folder entries).find (name :: way) := by
  rw [find]
  cases child? name entries with
  | some next => rfl
  | none =>
    obtain ⟨first, rest, rfl⟩ := List.exists_cons_of_ne_nil more
    rfl

theorem find_getD_file {old : String} :
    ((child? name entries).getD (.folder [])).find way = .ok (.file old) ↔
      (folder entries).find (name :: way) = .ok (.file old) := by
  by_cases here : way = []
  · subst here
    simp only [find]
    cases child? name entries <;> simp
  · rw [find_getD here]

theorem blocks_last : (folder entries).Blocks [name] ↔
    ∃ inside, child? name entries = some (.folder inside) := by
  unfold Blocks
  refine Iff.trans (or_iff_right ?_) ?_
  · rintro ⟨way, old, on, found⟩
    obtain rfl := List.prefix_nil.mp on
    simp [find] at found
  · simp only [find]
    cases child? name entries <;> simp

theorem blocks_cons (more : rest ≠ []) : (folder entries).Blocks (name :: rest) ↔
    ((child? name entries).getD (.folder [])).Blocks rest := by
  unfold Blocks
  rw [List.dropLast_cons_of_ne_nil more, find_getD more]
  refine or_congr_left ⟨?_, ?_⟩
  · rintro ⟨way, old, on, found⟩
    cases way with
    | nil => simp [find] at found
    | cons first way =>
      obtain ⟨rfl, further⟩ := List.cons_prefix_cons.mp on
      exact ⟨way, old, further, find_getD_file.mpr found⟩
  · rintro ⟨way, old, on, found⟩
    exact ⟨name :: way, old, List.cons_prefix_cons.mpr ⟨rfl, on⟩, find_getD_file.mp found⟩

/-- A file can be written unless something is in its way. -/
theorem exists_keep_iff : (∃ after, node.keep content path = .ok after) ↔ ¬ node.Blocks path := by
  induction path generalizing node with
  | nil =>
    refine iff_of_false (fun ⟨_, kept⟩ => keep_nil_ne_ok kept) (not_not_intro ?_)
    cases node with
    | file old => exact .inl ⟨[], old, List.nil_prefix, rfl⟩
    | folder entries => exact .inr ⟨entries, rfl⟩
  | cons name rest ih =>
    cases node with
    | file old =>
      exact iff_of_false (fun ⟨_, kept⟩ => keep_file_ne_ok kept)
        (not_not_intro (.inl ⟨[], old, List.nil_prefix, rfl⟩))
    | folder entries =>
      by_cases last : rest = []
      · subst last
        simp [keep_last_eq_ok_iff, blocks_last]
      · rw [blocks_cons last, ← ih]
        simp only [keep_cons_eq_ok_iff last]
        rw [exists_comm]
        simp

/-- No other file is touched. -/
theorem find_keep_of_ne (kept : node.keep content path = .ok after) (other : way ≠ path)
    (old : String) : after.find way = .ok (.file old) ↔ node.find way = .ok (.file old) := by
  induction path generalizing node after way with
  | nil => exact absurd kept keep_nil_ne_ok
  | cons name rest ih =>
    cases node with
    | file old => exact absurd kept keep_file_ne_ok
    | folder entries =>
      -- Only the entry of the first name is another one.
      obtain ⟨next, rfl, below⟩ : ∃ next, after = .folder (setChild name next entries) ∧
          ∀ way, way ≠ rest → (next.find way = .ok (.file old) ↔
            (folder entries).find (name :: way) = .ok (.file old)) := by
        by_cases last : rest = []
        · subst last
          obtain ⟨unfoldered, rfl⟩ := keep_last_eq_ok_iff.mp kept
          refine ⟨_, rfl, fun way more => ?_⟩
          obtain ⟨first, rest, rfl⟩ := List.exists_cons_of_ne_nil more
          rw [find_cons]
          cases here : child? name entries with
          | none => simp [find]
          | some next =>
            cases next with
            | file old => simp [find]
            | folder inside => exact absurd here (unfoldered inside)
        · obtain ⟨next, below, rfl⟩ := (keep_cons_eq_ok_iff last).mp kept
          exact ⟨next, rfl, fun way other => (ih below other).trans find_getD_file⟩
      cases way with
      | nil => simp [find]
      | cons first way =>
        rw [find_cons, find_cons]
        by_cases same : first = name
        · subst same
          rw [child?_setChild]
          exact below way (by simpa using other)
        · rw [child?_setChild_of_ne same]

/-- A file lies in folders. -/
theorem find_of_isPrefix {front behind : List String} (more : behind ≠ []) {found : Node}
    (there : node.find (front ++ behind) = .ok found) :
    ∃ entries, node.find front = .ok (.folder entries) := by
  induction front generalizing node with
  | nil =>
    obtain ⟨name, rest, rfl⟩ := List.exists_cons_of_ne_nil more
    cases node with
    | file old => simp [find] at there
    | folder entries => exact ⟨entries, rfl⟩
  | cons name rest ih =>
    cases node with
    | file old => simp [find] at there
    | folder entries =>
      rw [List.cons_append, find] at there
      rw [find]
      cases here : child? name entries with
      | none => simp [here] at there
      | some next =>
        rw [here] at there
        exact ih there

end Keep

end Node

/-- What was written is there. -/
theorem Files.read_write {files after : Files} {path : Path} {content : String}
    (written : files.write path content = .ok after) : after.read path = .ok content := by
  unfold write at written
  split at written
  · rename_i tree put
    rw [← Except.ok.inj written, read, Node.find_putFile put]
  · contradiction

theorem Artifact.read_persist {files after : Files} {cwd path : Path} {artifact transcript : String}
    (kept : persist files cwd artifact transcript = (after, .ok path)) :
    path = cwd.resolve artifact ∧ after.read path = .ok transcript := by
  unfold persist at kept
  dsimp only at kept
  split at kept
  · simp at kept
  · split at kept
    · simp at kept
    · rename_i written
      obtain ⟨rfl, same⟩ := Prod.mk.inj kept
      obtain rfl := Except.ok.inj same
      exact ⟨rfl, Files.read_write written⟩

/-- Keeping an artifact is a walk along its path. -/
theorem Artifact.persist_eq_ok_iff {files after : Files} {cwd path : Path}
    {artifact transcript : String} :
    persist files cwd artifact transcript = (after, .ok path) ↔
      path = cwd.resolve artifact ∧
        files.tree.keep transcript (cwd.resolve artifact).segments = .ok after.tree := by
  unfold persist Files.makeFolders Node.keep
  dsimp only [Path.parent]
  cases files.tree.makeFolders (cwd.resolve artifact).segments.dropLast with
  | error problem => simp
  | ok made =>
    dsimp only [Files.write]
    cases made.putFile transcript (cwd.resolve artifact).segments with
    | error problem => simp
    | ok tree =>
      obtain ⟨other⟩ := after
      simp [eq_comm, and_comm]

end ConsoleHarness
