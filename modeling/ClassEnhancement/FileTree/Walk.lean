import ClassEnhancement.FileTree.Operations

/-!
# Walking a directory

A walk lists the regular files below a root, links followed.  It ends early at a link that leads
nowhere, or to a directory that the walk is inside of.
-/

namespace ClassEnhancement

/-- Why a walk ended early. -/
inductive WalkError where
  /-- An entry leads nowhere. -/
  | unreadable (path : FilePath) (cause : FileError)
  /-- A link leads to a directory above itself. -/
  | loop (path ancestor : FilePath)
  deriving DecidableEq, Repr

/-- Wording of a walk error. -/
def WalkError.message : WalkError → String
  | .unreadable path cause => s!"IO error for operation on {path.text}: {cause.message}"
  | .loop path ancestor =>
    s!"File system loop found: {path.text} points to an ancestor {ancestor.text}"

instance : ToString WalkError := ⟨WalkError.message⟩

namespace FileTree

/-- Files met by a walk, and what ended it early. -/
structure Visit where
  /-- Regular files in the order in which they were met. -/
  files : List FilePath
  /-- What ended the walk, if it did not reach everything. -/
  stopped : Option WalkError

namespace Visit

/-- A walk that meets nothing. -/
def nothing : Visit := ⟨[], none⟩

/-- One walk after another, unless the first one ended early. -/
def andThen (first : Visit) (next : Visit) : Visit :=
  match first.stopped with
  | some _ => first
  | none => ⟨first.files ++ next.files, next.stopped⟩

/-- Walks one after another. -/
def sequence (visits : List Visit) : Visit := visits.foldr andThen nothing

end Visit

/-- A directory that a walk is inside of, with the path by which it got there. -/
abbrev Ancestor := Location × FilePath

/-- Visits an entry by its location and path, at a bounded depth. -/
def visit (tree : FileTree) : Nat → List Ancestor → Location → FilePath → Visit
  | 0, _, _, _ => .nothing
  | depth + 1, ancestors, location, path =>
    let enter (directory : Location) : Visit :=
      .sequence ((tree.children directory).map fun name =>
        visit tree depth ((directory, path) :: ancestors) (directory ++ [name]) (path.child name))
    match tree.lookup? location with
    | none => ⟨[], some (.unreadable path (.system .notFound))⟩
    | some (.file _) => ⟨[path], none⟩
    | some .directory => enter location
    | some (.link _) =>
      match tree.locate path with
      | .error cause => ⟨[], some (.unreadable path cause)⟩
      | .ok reached =>
        if tree.lookup? reached = some .directory then
          match ancestors.lookup reached with
          | some above => ⟨[], some (.loop path above)⟩
          | none => enter reached
        else ⟨[path], none⟩

/-- A depth that no walk exceeds: between two followed links there are at most as many steps as
there are entries, and no link is followed twice on one way down. -/
def walkDepth (tree : FileTree) : Nat := (tree.entries.size + 2) * (tree.entries.size + 2)

/-- Walks the directory that a path denotes. -/
def walk (tree : FileTree) (root : FilePath) : Visit :=
  match tree.locate root with
  | .error cause => ⟨[], some (.unreadable root cause)⟩
  | .ok location => tree.visit tree.walkDepth [] location root

end FileTree
end ClassEnhancement
