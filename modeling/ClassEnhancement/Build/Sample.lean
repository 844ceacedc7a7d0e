import ClassEnhancement.Build.Layout
import ClassEnhancement.ClassFile.Encoding
import ClassEnhancement.Manifest.Location
import ClassEnhancement.Source.Scan

/-!
# Sample projects

A sample project is a directory with modules in the standard layout and a directory of library
classes.  Sources, compiled classes and manifests of a simple form can be put into it, and its model
is scanned from the files that are there.
-/

namespace ClassEnhancement

/-- A sample project. -/
structure SampleProject where
  /-- Directory of the project. -/
  root : FilePath
  /-- Names of the modules, in order. -/
  modules : List String
  deriving DecidableEq, Repr

namespace SampleProject

/-! ## Paths -/

/-- Directory of a module. -/
def directory (sample : SampleProject) (name : String) : FilePath := sample.root.child name

/-- A module, which need not have been added. -/
def moduleOf (sample : SampleProject) (name : String) : ProjectModule :=
  ModuleLayout.standard.moduleIn name (sample.directory name)

/-- Output directory of the main classes of a module. -/
def output (sample : SampleProject) (name : String) : FilePath :=
  (sample.directory name).join ModuleLayout.standard.outputDirectory

/-- Output directory of the test classes of a module. -/
def testOutput (sample : SampleProject) (name : String) : FilePath :=
  (sample.directory name).join ModuleLayout.standard.testOutputDirectory

/-- Root of the sources of a module. -/
def sources (sample : SampleProject) (name : String) : FilePath :=
  (sample.directory name).child "src/main/java"

/-- Directory of library classes. -/
def library (sample : SampleProject) : FilePath := sample.root.child "lib"

/-! ## Writing -/

/-- Adds a module with its directories. -/
def addModule (sample : SampleProject) (tree : FileTree) (name : String) :
    Except FileError (FileTree × SampleProject) := do
  let tree ← tree.withDirectories (sample.output name)
  let tree ← tree.withDirectories (sample.testOutput name)
  let tree ← tree.withDirectories (sample.sources name)
  return (tree, { sample with modules := sample.modules ++ [name] })

/-- Writes a file below the directory of the project, and gives its path. -/
def write (sample : SampleProject) (tree : FileTree) (relative : FilePath) (content : Bytes) :
    Except FileError (FileTree × FilePath) := do
  let path := sample.root.join relative
  return (← tree.place path (.file content), path)

/-- Writes a file that has to be below the directory of the project. -/
def writeBelow (sample : SampleProject) (tree : FileTree) (path : FilePath) (content : Bytes) :
    Except FileError (FileTree × FilePath) :=
  match path.componentsBelow? sample.root with
  | some below => sample.write tree (.ofComponents below) content
  | none => .error (.reported "prefix not found")

/-- Text of a source file that declares a class. -/
def sourceText (name : ClassName) : String :=
  s!"package {name.package};\nclass {name.simpleName} \x7b\x7d\n"

/-- Writes a source file of a module. -/
def writeSource (sample : SampleProject) (tree : FileTree) (owner : String) (name : ClassName) :
    Except FileError (FileTree × FilePath) :=
  let relative := ((FilePath.mk owner).child "src/main/java").child (name.slashed ++ ".java")
  sample.write tree relative (Utf8.encode (sourceText name))

/-- Writes a compiled class below a directory of the project. -/
def writeClass (sample : SampleProject) (tree : FileTree) (directory : FilePath)
    (name : ClassName) : Except FileError (FileTree × FilePath) :=
  sample.writeBelow tree (directory.join name.classFile)
    (ClassFile.minimalFile name.slashed "java/lang/Object")

/-- Writes the manifest in the output directory of a module. -/
def writeOutputManifest (sample : SampleProject) (tree : FileTree) (owner : String)
    (packages : List String) : Except FileError (FileTree × FilePath) :=
  let listed := ", ".intercalate packages
  sample.writeBelow tree ((sample.output owner).join ManifestLocation.standard.relative)
    (Utf8.encode s!"Manifest-Version: 1.0\npackages: {listed}\n\n")

/-- Writes a list of packages among the resources of a module. -/
def writeResourceManifest (sample : SampleProject) (tree : FileTree) (owner : String)
    (packages : List String) : Except FileError (FileTree × FilePath) :=
  let resources := (FilePath.mk owner).child "src/main/resources"
  sample.write tree (resources.child ManifestLocation.standard.fileName)
    (Utf8.encode ("\n".intercalate packages))

/-! ## The model -/

/-- Roots to scan, with what their files declare. -/
def scanRoots (sample : SampleProject) : List (FilePath × Origin) :=
  (sample.modules.flatMap fun name =>
      (ModuleLayout.standard.rootsIn (sample.directory name)).map fun path => (path, .source))
    ++ [(sample.library, .library)]

/-- The model of the project, as its files are. -/
def model (sample : SampleProject) (tree : FileTree) : Except ScanError Project :=
  match SourceIndex.empty.scanAll tree sample.scanRoots with
  | .error error => .error error
  | .ok index =>
    .ok
      { name := "fixture"
        base := sample.root
        modules := sample.modules.map sample.moduleOf
        index }

end SampleProject
end ClassEnhancement
