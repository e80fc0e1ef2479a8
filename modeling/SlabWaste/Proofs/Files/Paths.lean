/-
  SlabWaste.Proofs.Files.Paths
  ────────────────────────────
  **PATHS THAT NO FILE CAN HAVE.**

  A path that holds the character that ends a path is a fault of its own; with
  any other path a file can be opened, or is refused:

      FileSystem.Lawful     no other path has that fault
      lawful_fileSystem     so it is in a directory in memory
      ofOpening_of_ne       … and then whatever else is wrong is a refusal
-/
import SlabWaste.Fault
import SlabWaste.Proofs.CommandLine.Characters

namespace SlabWaste

open SlabWaste.CommandLine

/-! ## §1. The character that ends a path. -/

/-- The character that ends a path does not occur in a text. -/
def NoNul (path : String) : Prop := Throughout (· ≠ Char.ofNat 0) path

instance (path : String) : Decidable (NoNul path) :=
  List.decidableBAll (· ≠ Char.ofNat 0) path.toList

/-- A file system has this fault to find with a path only if the path holds that character. -/
def FileSystem.Lawful (fs : FileSystem) : Prop :=
  ∀ path, fs.read path = .error .nulInPath → ¬ NoNul path

/-! ## §2. A directory in memory. -/

namespace Directory

variable {d : Directory}

/-- On its way a path meets no character that ends it, … -/
theorem walk_ne_nulInPath (place : Place) (parts : List String) :
    d.walk place parts ≠ .error .nulInPath := by
  induction parts generalizing place with
  | nil => exact fun h => nomatch h
  | cons c rest ih =>
      unfold walk
      cases d.entry? place with
      | none => exact fun h => nomatch h
      | some entry =>
          cases entry with
          | file bytes => exact fun h => nomatch h
          | directory =>
              -- the walk goes on from some place, or a name is too long
              simp only
              split
              · exact ih place
              split
              · exact ih place.parent
              split
              · exact fun h => nomatch h
              · exact ih (place.child c)

/-- … since that is found out before. -/
theorem components_eq_nulInPath {path : String} (h : components path = .error .nulInPath) :
    ¬ NoNul path := by
  unfold components at h
  split at h
  · next hnul =>
      intro hno
      exact hno _ (List.contains_iff_mem.mp hnul) rfl
  split at h
  · cases h
  split at h
  · cases h
  · cases h

/-- A directory in memory finds that fault with no other paths. -/
theorem lawful_fileSystem (d : Directory) : d.fileSystem.Lawful := by
  intro path h
  change d.read path = .error .nulInPath at h
  unfold read resolve at h
  rcases bind_eq_error h with hplace | ⟨place, -, hentry⟩
  · rcases bind_eq_error hplace with hparts | ⟨parts, -, hwalk⟩
    · exact components_eq_nulInPath hparts
    · exact absurd hwalk (walk_ne_nulInPath _ _)
  · split at hentry
    · cases hentry
    · cases hentry
    · cases hentry

end Directory

/-! ## §3. Files that cannot be opened. -/

/-- A file that cannot be opened is refused. -/
theorem Fault.ofOpening_of_ne {refuse : FileFault → Refusal} {why : FileFault}
    (h : why ≠ .nulInPath) : Fault.ofOpening refuse why = .refused (refuse why) := by
  cases why with
  | nulInPath => exact absurd rfl h
  | _ => rfl

end SlabWaste
