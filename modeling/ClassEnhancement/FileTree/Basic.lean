import ClassEnhancement.FilePath
import ClassEnhancement.FileTree.Error
import ClassEnhancement.OrderedMap
import ClassEnhancement.Text.Utf8

/-!
# File trees

A file tree maps locations, lists of names from the root, to files, directories and symbolic links.
A path is resolved one step at a time.  Every step but the last has to lead to a directory, links
are followed on the way, and a bounded number of links is followed altogether.
-/

namespace ClassEnhancement

/-- Names from the root, outermost first. -/
abbrev Location := List String

/-- What stands at a location. -/
inductive Entry where
  /-- A regular file. -/
  | file (content : Bytes)
  /-- A directory. -/
  | directory
  /-- A symbolic link. -/
  | link (target : FilePath)
  deriving DecidableEq, Repr

/-- A file system with a working directory, where relative paths start. -/
structure FileTree where
  /-- Entries by location; the root itself is not listed. -/
  entries : OrderedMap Location Entry
  /-- Location where relative paths start. -/
  workingDirectory : Location

namespace FileTree

/-- The root of an absolute spelling of a location. -/
def pathOf (location : Location) : FilePath := ⟨"/" ++ "/".intercalate location⟩

/-- Every location on the way to another one, the root apart. -/
def initials : Location → List Location
  | [] => []
  | name :: rest => [name] :: (initials rest).map (name :: ·)

/-- The tree with nothing but its working directory. -/
def empty (workingDirectory : Location) : FileTree where
  entries := .ofList ((initials workingDirectory).map fun location => (location, .directory))
  workingDirectory

/-- The entry at a location; the root is a directory. -/
def lookup? (tree : FileTree) (location : Location) : Option Entry :=
  if location = [] then some .directory else tree.entries.find? location

/-- Names of the entries directly below a location. -/
def children (tree : FileTree) (location : Location) : List String :=
  tree.entries.keys.filterMap fun key =>
    if key.dropLast = location then key.getLast? else none

/-- The tree with an entry put at a location. -/
def put (tree : FileTree) (location : Location) (entry : Entry) : FileTree :=
  { tree with entries := tree.entries.insert location entry }

/-! ## Steps of a path -/

/-- The steps that a path spells; a separator at the end asks for a directory, as `.` does. -/
def steps (path : FilePath) : List String :=
  let names := (Text.pieces '/' path.text).filter (· ≠ "")
  if path.text.toList.getLast? = some '/' then names ++ ["."] else names

/-- Where the steps of a path start. -/
def origin (workingDirectory : Location) (path : FilePath) : Location :=
  if path.isAbsolute then [] else workingDirectory

/-- Where a path leads. -/
inductive Destination where
  /-- To an existing entry that is no link. -/
  | present (location : Location)
  /-- To a name that an existing directory does not have. -/
  | vacant (directory : Location) (name : String)
  deriving DecidableEq, Repr

/-- Result of taking steps without following a link. -/
inductive Progress where
  /-- All steps are taken. -/
  | arrived (destination : Destination)
  /-- A link is met; the steps go on along its target. -/
  | detour (location : Location) (steps : List String)
  deriving DecidableEq, Repr

/-- Takes steps from a location until a link is met. -/
def advance (tree : FileTree) : Location → List String → Except SystemError Progress
  | location, [] => .ok (.arrived (.present location))
  | location, step :: rest =>
    if tree.lookup? location ≠ some .directory then .error .notDirectory
    else if step = "." then advance tree location rest
    else if step = ".." then advance tree location.dropLast rest
    else
      match tree.lookup? (location ++ [step]) with
      | some (.link target) =>
        .ok (.detour (origin location target) (steps target ++ rest))
      | some _ => advance tree (location ++ [step]) rest
      | none => if rest = [] then .ok (.arrived (.vacant location step)) else .error .notFound

/-- Takes steps from a location, following fewer links than the given number. -/
def follow (tree : FileTree) : Nat → Location → List String → Except SystemError Destination
  | 0, _, _ => .error .tooManyLinks
  | links + 1, location, steps =>
    match advance tree location steps with
    | .error cause => .error cause
    | .ok (.arrived destination) => .ok destination
    | .ok (.detour next steps) => follow tree links next steps

/-- One more than the number of links that may be followed. -/
def linkLimit : Nat := 41

/-- Text of the error for a path that holds a null character. -/
def nullInPath : FileError := .reported "file name contained an unexpected NUL byte"

/-- Where a list of steps leads from the start of a path. -/
def resolveSteps (tree : FileTree) (path : FilePath) (steps : List String) :
    Except FileError Destination :=
  if '\x00' ∈ path.text.toList then .error nullInPath
  else if path.text = "" then .error (.system .notFound)
  else
    match follow tree linkLimit (origin tree.workingDirectory path) steps with
    | .ok destination => .ok destination
    | .error cause => .error (.system cause)

/-- Where a path leads, links followed to the end. -/
def resolve (tree : FileTree) (path : FilePath) : Except FileError Destination :=
  tree.resolveSteps path (steps path)

/-- The location of the existing entry that a path denotes. -/
def locate (tree : FileTree) (path : FilePath) : Except FileError Location :=
  match tree.resolve path with
  | .error error => .error error
  | .ok (.vacant _ _) => .error (.system .notFound)
  | .ok (.present location) => .ok location

@[simp]
theorem lookup?_root (tree : FileTree) : tree.lookup? [] = some .directory := rfl

theorem lookup?_put_self (tree : FileTree) {location : Location} (below : location ≠ [])
    (entry : Entry) : (tree.put location entry).lookup? location = some entry := by
  simp [lookup?, put, below]

theorem lookup?_put_of_ne (tree : FileTree) {location other : Location}
    (different : other ≠ location) (entry : Entry) :
    (tree.put location entry).lookup? other = tree.lookup? other := by
  simp [lookup?, put, OrderedMap.find?_insert_of_ne _ different]

end FileTree
end ClassEnhancement
