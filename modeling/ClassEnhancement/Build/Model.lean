import ClassEnhancement.Build.ConfigFile

/-!
# Building the model of a project

The modules of a project are its configured directories or, if there are none, the project
directory and those directly below it that have a source or resource root.  The roots of every
module are scanned as sources, then the library directories as libraries.
-/

namespace ClassEnhancement
namespace ProjectConfig

/-- Name of a project whose directory has no name. -/
def unnamed : String := "project"

/-- Name of the project in a directory. -/
def projectName (root : FilePath) : String := root.fileName?.getD unnamed

/-- Name of the module in a directory of a project. -/
def moduleName (root directory : FilePath) : String :=
  if directory.Same root then projectName root else directory.fileName?.getD (projectName root)

/-- The directories among names in a project directory that look like modules, in order. -/
def detected (config : ProjectConfig) (tree : FileTree) (root : FilePath) (names : List String) :
    List FilePath :=
  let below := (names.map root.child).filter fun directory =>
    tree.isDirectory directory && config.layout.fits tree directory
  (if config.layout.fits tree root then [root] else []) ++ below.mergeSort FilePath.le

/-- Directories of the modules. -/
def moduleDirectories (config : ProjectConfig) (tree : FileTree) (root : FilePath) :
    Except ConfigError (List FilePath) :=
  if config.modules ≠ [] then .ok (config.modules.map root.join)
  else
    match tree.list root with
    | .ok names => .ok (config.detected tree root names)
    | .error cause => .error (.unlistable root cause)

/-- Roots to scan, with what their files declare. -/
def scanRoots (config : ProjectConfig) (root : FilePath) (directories : List FilePath) :
    List (FilePath × Origin) :=
  (directories.flatMap fun directory =>
      (config.layout.rootsIn directory).map fun path => (path, .source))
    ++ config.libraryDirectories.map fun path => (root.join path, .library)

/-- The model of the project in a directory. -/
def buildProject (config : ProjectConfig) (tree : FileTree) (root : FilePath) :
    Except ConfigError Project :=
  match config.moduleDirectories tree root with
  | .error error => .error error
  | .ok directories =>
    match SourceIndex.empty.scanAll tree (config.scanRoots root directories) with
    | .error error => .error (.unscannable error)
    | .ok index =>
      .ok
        { name := projectName root
          base := root
          modules := directories.map fun directory =>
            config.layout.moduleIn (moduleName root directory) directory
          index }

end ProjectConfig
end ClassEnhancement
