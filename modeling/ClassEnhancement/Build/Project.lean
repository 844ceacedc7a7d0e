import ClassEnhancement.Source.Index

/-!
# Projects and modules

A module has content roots and up to two output directories.  A file belongs to the module with
the deepest content root that contains it; of equally deep ones the last module owns the file.
-/

namespace ClassEnhancement

/-- A module of a project. -/
structure ProjectModule where
  /-- Name of the module. -/
  name : String
  /-- Directory of the main classes, if there is one. -/
  output : Option FilePath
  /-- Directory of the test classes, if there is one. -/
  testOutput : Option FilePath
  /-- Directories whose files belong to the module. -/
  contentRoots : List FilePath
  deriving DecidableEq, Repr

/-- Depth of the deepest content root that contains a file. -/
def ProjectModule.owningDepth? (owner : ProjectModule) (file : FilePath) : Option Nat :=
  ((owner.contentRoots.filter fun root => decide (file.StartsWith root)).map FilePath.depth).max?

/-- A project with what is known of its sources. -/
structure Project where
  /-- Name of the project. -/
  name : String
  /-- Directory of the project. -/
  base : FilePath
  /-- Modules in order. -/
  modules : List ProjectModule
  /-- Index of declarations and files. -/
  index : SourceIndex
  deriving DecidableEq, Repr

namespace Project

/-- The deeper of two owners, the later one on a tie. -/
def deeper (best : Option (Nat × ProjectModule)) (next : Nat × ProjectModule) :
    Option (Nat × ProjectModule) :=
  match best with
  | none => some next
  | some current => if current.1 ≤ next.1 then some next else some current

/-- The module that owns a file. -/
def moduleFor? (project : Project) (file : FilePath) : Option ProjectModule :=
  let owners := project.modules.filterMap fun owner =>
    (owner.owningDepth? file).map fun depth => (depth, owner)
  (owners.foldl deeper none).map Prod.snd

/-- The first module of a name. -/
def moduleNamed? (project : Project) (name : String) : Option ProjectModule :=
  project.modules.find? fun candidate => candidate.name == name

end Project
end ClassEnhancement
