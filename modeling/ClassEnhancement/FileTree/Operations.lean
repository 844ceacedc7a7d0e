import ClassEnhancement.FileTree.Basic

/-!
# File operations

Reading, writing, creating directories, removing and naming files.  An operation changes the tree
at one location only, and a failed operation leaves the tree as it was; only of several directories
the first ones stay when a later one cannot be created.
-/

namespace ClassEnhancement
namespace FileTree

/-! ## Reading -/

/-- The entry that a path denotes. -/
def find? (tree : FileTree) (path : FilePath) : Option Entry :=
  match tree.locate path with
  | .ok location => tree.lookup? location
  | .error _ => none

/-- Whether a path denotes a regular file. -/
def isFile (tree : FileTree) (path : FilePath) : Bool :=
  match tree.find? path with
  | some (.file _) => true
  | _ => false

/-- Whether a path denotes a directory. -/
def isDirectory (tree : FileTree) (path : FilePath) : Bool := tree.find? path == some .directory

/-- Contents of the file at a location. -/
def contentAt (tree : FileTree) (location : Location) : Except FileError Bytes :=
  match tree.lookup? location with
  | some (.file content) => .ok content
  | some .directory => .error (.system .isDirectory)
  | _ => .error (.system .notFound)

/-- Contents of the file that a path denotes. -/
def read (tree : FileTree) (path : FilePath) : Except FileError Bytes :=
  match tree.locate path with
  | .ok location => tree.contentAt location
  | .error error => .error error

/-- Contents of a file that holds text. -/
def readText (tree : FileTree) (path : FilePath) : Except FileError String :=
  match tree.read path with
  | .error error => .error error
  | .ok content =>
    match Utf8.decode content with
    | .ok text => .ok text
    | .error _ => .error .notText

/-- The absolute path of an existing entry, without links. -/
def canonical (tree : FileTree) (path : FilePath) : Except FileError FilePath :=
  match tree.locate path with
  | .ok location => .ok (pathOf location)
  | .error error => .error error

/-- Names in the directory that a path denotes. -/
def list (tree : FileTree) (path : FilePath) : Except FileError (List String) :=
  match tree.locate path with
  | .error error => .error error
  | .ok location =>
    if tree.lookup? location = some .directory then .ok (tree.children location)
    else .error (.system .notDirectory)

/-! ## Writing -/

/-- Whether a path ends in a separator. -/
def endsInSeparator (path : FilePath) : Bool := path.text.toList.getLast? = some '/'

/-- The location that a write to a path replaces or creates. -/
def target (tree : FileTree) (path : FilePath) : Except FileError Location :=
  if endsInSeparator path then
    match tree.resolveSteps path (steps path).dropLast with
    | .error error => .error error
    | .ok _ => .error (.system .isDirectory)
  else
    match tree.resolve path with
    | .error error => .error error
    | .ok (.vacant directory name) => .ok (directory ++ [name])
    | .ok (.present location) =>
      if tree.lookup? location = some .directory then .error (.system .isDirectory)
      else .ok location

/-- Replaces the whole contents of a file, or creates it in an existing directory. -/
def write (tree : FileTree) (path : FilePath) (content : Bytes) : Except FileError FileTree :=
  match tree.target path with
  | .ok location => .ok (tree.put location (.file content))
  | .error error => .error error

/-! ## Directories -/

/-- The directory and name of the last step of a path, which is not followed. -/
def lastStep (tree : FileTree) (path : FilePath) : Except FileError (Location × String) :=
  let named := (Text.pieces '/' path.text).filter (· ≠ "")
  match named.getLast? with
  | none => if path.isAbsolute then .ok ([], ".") else .error (.system .notFound)
  | some name =>
    match tree.resolveSteps path (named.dropLast ++ ["."]) with
    | .error error => .error error
    | .ok (.present directory) => .ok (directory, name)
    | .ok (.vacant _ _) => .error (.system .notFound)

/-- Creates one directory. -/
def createDirectory (tree : FileTree) (path : FilePath) : Except FileError FileTree :=
  match tree.lastStep path with
  | .error error => .error error
  | .ok (directory, name) =>
    if name = "." ∨ name = ".." ∨ (tree.lookup? (directory ++ [name])).isSome then
      .error (.system .alreadyExists)
    else .ok (tree.put (directory ++ [name]) .directory)

/-- Creates a directory and those above it that are missing, looking at as many ancestors as the
bound allows.  Directories that were created before an error stay. -/
def createDirectoriesWithin : Nat → FileTree → FilePath → FileTree × Except FileError Unit
  | 0, tree, _ => (tree, .error (.reported "failed to create whole tree"))
  | bound + 1, tree, path =>
    if path.text = "" then (tree, .ok ())
    else
      match tree.createDirectory path with
      | .ok created => (created, .ok ())
      | .error error =>
        if error ≠ .system .notFound then
          (tree, if tree.isDirectory path then .ok () else .error error)
        else
          match path.parent? with
          | none => (tree, .error (.reported "failed to create whole tree"))
          | some parent =>
            match createDirectoriesWithin bound tree parent with
            | (below, .error error) => (below, .error error)
            | (below, .ok ()) =>
              match below.createDirectory path with
              | .ok created => (created, .ok ())
              | .error error => (below, if below.isDirectory path then .ok () else .error error)

/-- Creates a directory and those above it that are missing. -/
def createDirectories (tree : FileTree) (path : FilePath) : FileTree × Except FileError Unit :=
  createDirectoriesWithin (path.depth + 2) tree path

/-- The tree with a directory and those above it, if all that are missing can be created. -/
def withDirectories (tree : FileTree) (path : FilePath) : Except FileError FileTree :=
  match tree.createDirectories path with
  | (created, .ok ()) => .ok created
  | (_, .error error) => .error error

/-! ## Removing and placing -/

/-- The tree without a location and everything below it. -/
def prune (tree : FileTree) (location : Location) : FileTree :=
  { tree with
    entries :=
      { entries := tree.entries.entries.filter fun entry => !location.isPrefixOf entry.1
        distinct :=
          ((List.filter_sublist).map Prod.fst).nodup tree.entries.distinct } }

/-- Removes what a path names, a directory with everything below it, a link without its target. -/
def remove (tree : FileTree) (path : FilePath) : Option FileTree :=
  match tree.lastStep path with
  | .error _ => none
  | .ok (directory, name) =>
    let location := directory ++ [name]
    match tree.lookup? location with
    | none => none
    | some entry =>
      if endsInSeparator path ∧ entry ≠ .directory then none else some (tree.prune location)

/-- Puts an entry at a path, with the directories above it. -/
def place (tree : FileTree) (path : FilePath) (entry : Entry) : Except FileError FileTree := do
  match entry with
  | .directory => tree.withDirectories path
  | .file content => do
    let tree ← tree.withDirectories (path.parent?.getD ⟨""⟩)
    tree.write path content
  | .link _ => do
    let tree ← tree.withDirectories (path.parent?.getD ⟨""⟩)
    let (directory, name) ← tree.lastStep path
    if (tree.lookup? (directory ++ [name])).isSome then .error (.system .alreadyExists)
    else .ok (tree.put (directory ++ [name]) entry)

/-! ## What an operation changes -/

theorem write_eq {tree written : FileTree} {path : FilePath} {content : Bytes}
    (success : tree.write path content = .ok written) :
    ∃ location, tree.target path = .ok location ∧ written = tree.put location (.file content) := by
  unfold write at success
  split at success
  · next location found =>
      cases success
      exact ⟨location, found, rfl⟩
  · cases success

end FileTree
end ClassEnhancement
