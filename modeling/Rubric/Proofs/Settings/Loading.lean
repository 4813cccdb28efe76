import Rubric.Proofs.Run.Handling
import Rubric.Settings.Load

/-! Loading settings on a tree of files. The tree is only looked at, and what the load comes down to
is to settle the contents of the files that are there, with the environment around the run. -/
namespace Rubric

namespace FileTree

variable {tree : FileTree} {device : Device} {path : Text}

def text (tree : FileTree) (path : Text) : Except FileFault Text :=
  match tree.read path with
  | .error fault => .error fault
  | .ok bytes =>
    match Utf8.decode? bytes with
    | none => .error .invalidData
    | some t => .ok t

def settingsFile (tree : FileTree) (path : Text) : Except Error (Text × Text) :=
  match tree.text path with
  | .error fault => .error (.file path fault)
  | .ok t => .ok (path, t)

/-- The files that settings are loaded from, the least first: the standard ones without those that
are missing, and the given one. -/
def settingsFiles (tree : FileTree) (surroundings : Settings.Surroundings) (given : Option Text) :
    Except Error (List (Text × Text)) :=
  ((Settings.standardPaths surroundings).filter (tree.read · ≠ .error .notFound) ++
    given.toList).mapM tree.settingsFile

theorem run_readText : tree.run device (·.readText path) = (tree.text path, tree) := by
  have hRead : tree.run device (·.read path) = (tree.read path, tree) := rfl
  unfold Host.readText
  rw [run_bind, hRead, text]
  cases tree.read path with
  | error fault => rfl
  | ok bytes =>
      dsimp only
      cases Utf8.decode? bytes <;> rfl

/-- A text is missing just when the file is. A file that is not text is not missing. -/
theorem text_eq_notFound_iff :
    tree.text path = .error .notFound ↔ tree.read path = .error .notFound := by
  rw [text]
  cases tree.read path with
  | error fault => simp
  | ok bytes =>
      dsimp only
      cases Utf8.decode? bytes <;> simp

/-- Of the usual files those that are there are read, in their order. The first that cannot be read
stops it. -/
theorem run_readExisting (paths : List Text) : tree.run device (Settings.readExisting · paths) =
    ((paths.filter (tree.read · ≠ .error .notFound)).mapM tree.settingsFile, tree) := by
  induction paths with
  | nil => rfl
  | cons path paths ih =>
      unfold Settings.readExisting
      rw [run_bind, run_readText]
      by_cases hMissing : tree.read path = .error .notFound
      · have hText := text_eq_notFound_iff.mpr hMissing
        simp only [hText]
        rw [List.filter_cons_of_neg (by simpa using hMissing), ← ih]
      · have hText := mt text_eq_notFound_iff.mp hMissing
        rw [List.filter_cons_of_pos (by simpa using hMissing), List.mapM_cons, settingsFile]
        cases hFound : tree.text path with
        | error fault =>
            cases fault with
            | notFound => exact absurd hFound hText
            | _ => rfl
        | ok t =>
            dsimp only
            rw [run_bind, ih]
            cases (paths.filter (tree.read · ≠ .error .notFound)).mapM tree.settingsFile <;> rfl

/-- A file that was asked for must be there. -/
theorem run_readGiven (given : Option Text) : tree.run device (Settings.readGiven · given) =
    (given.toList.mapM tree.settingsFile, tree) := by
  cases given with
  | none => rfl
  | some path =>
      unfold Settings.readGiven
      rw [run_bind, run_readText, Option.toList_some, List.mapM_cons, settingsFile]
      cases tree.text path <;> rfl

/-- Settings are loaded from the files in their order, strictly, and the tree stays as it is. -/
theorem run_load (surroundings : Settings.Surroundings) (given : Option Text) :
    tree.run device (Settings.load · surroundings given) =
      (do
        let files ← tree.settingsFiles surroundings given
        Settings.resolve ⟨files, surroundings.environment, true⟩, tree) := by
  unfold Settings.load
  rw [run_bind, run_readExisting, settingsFiles, List.mapM_append]
  cases (Settings.standardPaths surroundings).filter (tree.read · ≠ .error .notFound)
    |>.mapM tree.settingsFile with
  | error e => rfl
  | ok standard =>
      dsimp only
      rw [run_bind, run_readGiven]
      cases given.toList.mapM tree.settingsFile <;> rfl

end FileTree

end Rubric
