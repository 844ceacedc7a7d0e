import ClassEnhancement.FileTree.Operations

/-!
# The shape of a tree

The shape of a tree is what is left when the contents of its files are disregarded.  It alone
decides where a path leads, so overwriting files changes no path.  A path of a regular file is
written where it is read.
-/

namespace ClassEnhancement

/-- An entry without the contents of a file. -/
def Entry.shape : Entry → Entry
  | .file _ => .file []
  | .directory => .directory
  | .link target => .link target

namespace FileTree

/-- Two trees that differ in the contents of files only. -/
structure SameShape (left right : FileTree) : Prop where
  /-- Relative paths start at the same location. -/
  workingDirectory : left.workingDirectory = right.workingDirectory
  /-- Entries stand at the same locations. -/
  keys : left.entries.keys = right.entries.keys
  /-- Entries at the same location differ in contents only. -/
  lookup : ∀ location,
    (left.lookup? location).map Entry.shape = (right.lookup? location).map Entry.shape

namespace SameShape

variable {left middle right : FileTree}

@[refl]
theorem refl (tree : FileTree) : SameShape tree tree := ⟨rfl, rfl, fun _ => rfl⟩

theorem symm (same : SameShape left right) : SameShape right left :=
  ⟨same.workingDirectory.symm, same.keys.symm, fun location => (same.lookup location).symm⟩

theorem trans (first : SameShape left middle) (second : SameShape middle right) :
    SameShape left right :=
  ⟨first.workingDirectory.trans second.workingDirectory, first.keys.trans second.keys,
    fun location => (first.lookup location).trans (second.lookup location)⟩

theorem lookup_directory (same : SameShape left right) {location : Location}
    (found : left.lookup? location = some .directory) :
    right.lookup? location = some .directory := by
  have shapes := same.lookup location
  rw [found] at shapes
  cases there : right.lookup? location with
  | none => simp [there] at shapes
  | some entry => cases entry <;> simp [there, Entry.shape] at shapes ⊢

theorem lookup_directory_iff (same : SameShape left right) (location : Location) :
    left.lookup? location = some .directory ↔ right.lookup? location = some .directory :=
  ⟨same.lookup_directory, same.symm.lookup_directory⟩

theorem lookup_file (same : SameShape left right) {location : Location} {content : Bytes}
    (found : left.lookup? location = some (.file content)) :
    ∃ other, right.lookup? location = some (.file other) := by
  have shapes := same.lookup location
  rw [found] at shapes
  cases there : right.lookup? location with
  | none => simp [there] at shapes
  | some entry => cases entry <;> simp [there, Entry.shape] at shapes ⊢

/-! ## Paths -/

/-- The same steps lead to the same place. -/
theorem advance_eq (same : SameShape left right) (location : Location) (steps : List String) :
    left.advance location steps = right.advance location steps := by
  induction steps generalizing location with
  | nil => rfl
  | cons step rest induction =>
      have shapes := same.lookup (location ++ [step])
      simp only [advance, ne_eq, same.lookup_directory_iff, induction]
      cases here : left.lookup? (location ++ [step]) with
      | none =>
          cases there : right.lookup? (location ++ [step]) with
          | none => rfl
          | some entry => simp [here, there] at shapes
      | some entry =>
          cases there : right.lookup? (location ++ [step]) with
          | none => simp [here, there] at shapes
          | some other =>
              cases entry <;> cases other <;> simp [here, there, Entry.shape] at shapes ⊢
              rw [shapes]

theorem follow_eq (same : SameShape left right) (links : Nat) (location : Location)
    (steps : List String) : left.follow links location steps = right.follow links location steps := by
  induction links generalizing location steps with
  | zero => rfl
  | succ links induction => simp only [follow, same.advance_eq, induction]

theorem resolve_eq (same : SameShape left right) (path : FilePath) :
    left.resolve path = right.resolve path := by
  simp only [resolve, resolveSteps, same.follow_eq, same.workingDirectory]

theorem locate_eq (same : SameShape left right) (path : FilePath) :
    left.locate path = right.locate path := by
  simp only [locate, same.resolve_eq]

end SameShape

/-! ## Files that are read and written -/

/-- The location of the regular file that a path denotes. -/
def DenotesFile (tree : FileTree) (path : FilePath) (location : Location) : Prop :=
  tree.locate path = .ok location ∧ ∃ content, tree.lookup? location = some (.file content)

theorem SameShape.denotesFile {left right : FileTree} (same : SameShape left right)
    {path : FilePath} {location : Location} (denotes : left.DenotesFile path location) :
    right.DenotesFile path location := by
  obtain ⟨located, content, found⟩ := denotes
  exact ⟨same.locate_eq path ▸ located, same.lookup_file found⟩

theorem isFile_iff (tree : FileTree) (path : FilePath) :
    tree.isFile path = true ↔ ∃ location, tree.DenotesFile path location := by
  unfold isFile find? DenotesFile
  cases tree.locate path with
  | error error => simp
  | ok location =>
      cases found : tree.lookup? location with
      | none => simp [found]
      | some entry => cases entry <;> simp [found]

theorem SameShape.isFile_eq {left right : FileTree} (same : SameShape left right)
    (path : FilePath) : left.isFile path = right.isFile path := by
  rw [Bool.eq_iff_iff, isFile_iff, isFile_iff]
  constructor
  · rintro ⟨location, denotes⟩
    exact ⟨location, same.denotesFile denotes⟩
  · rintro ⟨location, denotes⟩
    exact ⟨location, same.symm.denotesFile denotes⟩

theorem SameShape.isDirectory_eq {left right : FileTree} (same : SameShape left right)
    (path : FilePath) : left.isDirectory path = right.isDirectory path := by
  unfold isDirectory find?
  rw [same.locate_eq]
  cases right.locate path with
  | error error => rfl
  | ok location =>
      rw [Bool.eq_iff_iff, beq_iff_eq, beq_iff_eq]
      exact same.lookup_directory_iff location

theorem SameShape.children_eq {left right : FileTree} (same : SameShape left right)
    (location : Location) : left.children location = right.children location := by
  rw [children, children, same.keys]

theorem SameShape.list_eq {left right : FileTree} (same : SameShape left right)
    (path : FilePath) : left.list path = right.list path := by
  simp only [list, same.locate_eq, same.lookup_directory_iff, same.children_eq]

/-- A path reads as before when the shape is the same and so is the file that it leads to. -/
theorem SameShape.read_eq {left right : FileTree} (same : SameShape left right) {path : FilePath}
    (kept : ∀ location bytes, left.locate path = .ok location →
      left.lookup? location = some (.file bytes) → right.lookup? location = left.lookup? location) :
    right.read path = left.read path := by
  rw [read, read, ← same.locate_eq]
  split
  · next location located =>
      have shapes := same.lookup location
      rw [contentAt, contentAt]
      cases found : left.lookup? location with
      | none =>
          rw [found] at shapes
          rw [Option.map_eq_none_iff.mp shapes.symm]
      | some entry =>
          cases entry with
          | file bytes => rw [kept location bytes located found, found]
          | directory => rw [same.lookup_directory found]
          | link target =>
              rw [found] at shapes
              cases there : right.lookup? location with
              | none => simp [there] at shapes
              | some other =>
                  rw [there] at shapes
                  cases other with
                  | link => rfl
                  | file | directory => simp [Entry.shape] at shapes
  · rfl

end FileTree
end ClassEnhancement
