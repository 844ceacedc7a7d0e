import ClassEnhancement.Build.Model
import ClassEnhancement.Proofs.FileTree.Shape

/-!
# Projects and the shape of a tree

The model of a project is built from names and directories: which directories are there, and which
files a walk meets.  No file is read, so the contents of files have no part in it.
-/

namespace ClassEnhancement

variable {left right : FileTree}

namespace FileTree

/-! ## Walks -/

/-- A walk goes the same way and meets the same files. -/
theorem SameShape.visit_eq (same : SameShape left right) (depth : Nat) (ancestors : List Ancestor)
    (location : Location) (path : FilePath) :
    left.visit depth ancestors location path = right.visit depth ancestors location path := by
  induction depth generalizing ancestors location path with
  | zero => rfl
  | succ depth induction =>
      have shapes := same.lookup location
      simp only [visit, same.locate_eq, same.children_eq, same.lookup_directory_iff, induction]
      cases here : left.lookup? location with
      | none =>
          rw [here] at shapes
          rw [Option.map_eq_none_iff.mp shapes.symm]
      | some entry =>
          cases there : right.lookup? location with
          | none => simp [here, there] at shapes
          | some other => cases entry <;> cases other <;> simp [here, there, Entry.shape] at shapes ⊢

theorem SameShape.walkDepth_eq (same : SameShape left right) : left.walkDepth = right.walkDepth := by
  have sizes := congrArg List.length same.keys
  simp only [OrderedMap.keys, List.length_map] at sizes
  rw [walkDepth, walkDepth, OrderedMap.size, OrderedMap.size, sizes]

theorem SameShape.walk_eq (same : SameShape left right) (root : FilePath) :
    left.walk root = right.walk root := by
  simp only [walk, same.locate_eq, same.walkDepth_eq, same.visit_eq]

end FileTree

/-! ## Projects -/

open FileTree

namespace SourceIndex

theorem scan_eq_of_sameShape (same : SameShape left right) (index : SourceIndex)
    (root : FilePath) (origin : Origin) :
    index.scan left root origin = index.scan right root origin := by
  simp only [scan, same.isDirectory_eq, same.walk_eq]

theorem scanAll_eq_of_sameShape (same : SameShape left right) (index : SourceIndex)
    (roots : List (FilePath × Origin)) : index.scanAll left roots = index.scanAll right roots := by
  induction roots generalizing index with
  | nil => rfl
  | cons root rest induction =>
      obtain ⟨path, origin⟩ := root
      simp only [scanAll, scan_eq_of_sameShape same, induction]

end SourceIndex

namespace ProjectConfig

theorem moduleDirectories_eq_of_sameShape (same : SameShape left right)
    (config : ProjectConfig) (root : FilePath) :
    config.moduleDirectories left root = config.moduleDirectories right root := by
  have directories : left.isDirectory = right.isDirectory := funext same.isDirectory_eq
  have detected : config.detected left root = config.detected right root := by
    unfold detected ModuleLayout.fits
    rw [directories]
  rw [moduleDirectories, moduleDirectories, same.list_eq, detected]

/-- The same project is built in trees of the same shape. -/
theorem buildProject_eq_of_sameShape (same : SameShape left right)
    (config : ProjectConfig) (root : FilePath) :
    config.buildProject left root = config.buildProject right root := by
  simp only [buildProject, moduleDirectories_eq_of_sameShape same,
    SourceIndex.scanAll_eq_of_sameShape same]

end ProjectConfig
end ClassEnhancement
