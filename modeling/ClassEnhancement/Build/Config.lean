import ClassEnhancement.Build.Layout
import ClassEnhancement.Enhance.Config

/-!
# Project settings

What is configured for a whole project: the settings of the enhancement, the file that keeps its
state, the directories of modules and of library classes, and the layout of modules.  All paths are
relative to the directory of the project.
-/

namespace ClassEnhancement

/-- Settings of a project. -/
structure ProjectConfig where
  /-- Settings of the enhancement. -/
  enhance : EnhanceConfig
  /-- File that keeps the state of the enhancement. -/
  settingsPath : FilePath
  /-- Directories of modules; none means that they are to be detected. -/
  modules : List FilePath
  /-- Directories of library classes. -/
  libraryDirectories : List FilePath
  /-- Layout of every module. -/
  layout : ModuleLayout
  deriving DecidableEq, Repr

namespace ProjectConfig

/-- The settings where nothing else is configured. -/
def standard : ProjectConfig where
  enhance := .standard
  settingsPath := ⟨".tqe/workspace.json"⟩
  modules := []
  libraryDirectories := []
  layout := .standard

/-- The settings with one more module directory. -/
def addModule (config : ProjectConfig) (directory : FilePath) : ProjectConfig :=
  { config with modules := config.modules ++ [directory] }

/-- The settings with one more library directory. -/
def addLibrary (config : ProjectConfig) (directory : FilePath) : ProjectConfig :=
  { config with libraryDirectories := config.libraryDirectories ++ [directory] }

/-- Path of the file that keeps the state, for a project in a directory. -/
def settingsFile (config : ProjectConfig) (root : FilePath) : FilePath :=
  root.join config.settingsPath

/-- Equality of settings, with paths compared by components. -/
def Same (left right : ProjectConfig) : Prop :=
  left.enhance = right.enhance ∧ left.settingsPath.Same right.settingsPath ∧
    FilePath.SameAll left.modules right.modules ∧
    FilePath.SameAll left.libraryDirectories right.libraryDirectories ∧
    left.layout.Same right.layout

instance (left right : ProjectConfig) : Decidable (Same left right) :=
  inferInstanceAs (Decidable (_ ∧ _))

end ProjectConfig
end ClassEnhancement
