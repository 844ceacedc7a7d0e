import ClassEnhancement.Build.Project
import ClassEnhancement.FileTree.Operations

/-!
# Module layouts

Every module of a project is laid out alike: source roots, resource roots and two output
directories, all below the directory of the module.  Only the source and resource roots are content
roots, so nothing else below the directory has an owner.
-/

namespace ClassEnhancement

/-- Where a module keeps its files, below its directory. -/
structure ModuleLayout where
  /-- Roots of sources. -/
  sourceRoots : List FilePath
  /-- Roots of resources. -/
  resourceRoots : List FilePath
  /-- Output directory of the main classes. -/
  outputDirectory : FilePath
  /-- Output directory of the test classes. -/
  testOutputDirectory : FilePath
  deriving DecidableEq, Repr

namespace ModuleLayout

/-- The layout where nothing else is configured. -/
def standard : ModuleLayout where
  sourceRoots := [⟨"src/main/java"⟩, ⟨"src/test/java"⟩]
  resourceRoots := [⟨"src/main/resources"⟩, ⟨"src/test/resources"⟩]
  outputDirectory := ⟨"target/classes"⟩
  testOutputDirectory := ⟨"target/test-classes"⟩

/-- Source roots, then resource roots. -/
def roots (layout : ModuleLayout) : List FilePath := layout.sourceRoots ++ layout.resourceRoots

/-- Content roots of a module in a directory. -/
def rootsIn (layout : ModuleLayout) (directory : FilePath) : List FilePath :=
  layout.roots.map directory.join

/-- The module of a name in a directory. -/
def moduleIn (layout : ModuleLayout) (name : String) (directory : FilePath) : ProjectModule where
  name
  output := some (directory.join layout.outputDirectory)
  testOutput := some (directory.join layout.testOutputDirectory)
  contentRoots := layout.rootsIn directory

/-- Whether a directory has a source or resource root. -/
def fits (layout : ModuleLayout) (tree : FileTree) (directory : FilePath) : Bool :=
  (layout.rootsIn directory).any tree.isDirectory

/-- Equality of layouts, with paths compared by components. -/
def Same (left right : ModuleLayout) : Prop :=
  FilePath.SameAll left.sourceRoots right.sourceRoots ∧
    FilePath.SameAll left.resourceRoots right.resourceRoots ∧
    left.outputDirectory.Same right.outputDirectory ∧
    left.testOutputDirectory.Same right.testOutputDirectory

instance (left right : ModuleLayout) : Decidable (Same left right) :=
  inferInstanceAs (Decidable (_ ∧ _))

end ModuleLayout
end ClassEnhancement
