import ClassEnhancement.Build.Config
import ClassEnhancement.Source.Scan
import ClassEnhancement.Toml.Record

/-!
# The settings file of a project

A project may have a file that changes some of its settings.  Everything in it is optional; a file
that exists has to be readable and well formed.
-/

namespace ClassEnhancement

open TomlValue

/-! ## Reading records -/

/-- A path. -/
def FilePath.ofToml? (value : TomlValue) : Option FilePath := value.text?.map FilePath.mk

/-- Name and directory of manifests. -/
def ManifestLocation.ofToml? (value : TomlValue) : Option ManifestLocation := do
  let field ← value.fields? ["file_name", "directory"]
  let fileName ← valueOr standard.fileName text? (field "file_name")
  let directory ← valueOr standard.directory text? (field "directory")
  some ⟨fileName, directory⟩

/-- Options for a transformer. -/
def AgentOptions.ofToml? (value : TomlValue) : Option AgentOptions := do
  let field ← value.fields? ["debug"]
  let debug ← valueOr EnhanceConfig.standard.agent.debug (natBelow? (1 <<< 8)) (field "debug")
  some ⟨debug⟩

/-- Settings of the enhancement. -/
def EnhanceConfig.ofToml? (value : TomlValue) : Option EnhanceConfig := do
  let field ← value.fields? ["manifest", "agent", "progress_label", "resolver_cache_capacity"]
  let manifest ← valueOr standard.manifest ManifestLocation.ofToml? (field "manifest")
  let agent ← valueOr standard.agent AgentOptions.ofToml? (field "agent")
  let progressLabel ← valueOr standard.progressLabel text? (field "progress_label")
  let cacheCapacity ←
    valueOr standard.cacheCapacity (natBelow? (1 <<< 63)) (field "resolver_cache_capacity")
  some { manifest, agent, progressLabel, cacheCapacity }

/-- The layout of modules. -/
def ModuleLayout.ofToml? (value : TomlValue) : Option ModuleLayout := do
  let field ←
    value.fields? ["source_roots", "resource_roots", "output_dir", "test_output_dir"]
  let sourceRoots ← valueOr standard.sourceRoots (listOf? FilePath.ofToml?) (field "source_roots")
  let resourceRoots ←
    valueOr standard.resourceRoots (listOf? FilePath.ofToml?) (field "resource_roots")
  let outputDirectory ← valueOr standard.outputDirectory FilePath.ofToml? (field "output_dir")
  let testOutputDirectory ←
    valueOr standard.testOutputDirectory FilePath.ofToml? (field "test_output_dir")
  some { sourceRoots, resourceRoots, outputDirectory, testOutputDirectory }

namespace ProjectConfig

/-- Settings of a project. -/
def ofToml? (value : TomlValue) : Option ProjectConfig := do
  let field ← value.fields? ["enhance", "settings_path", "modules", "library_dirs", "layout"]
  let enhance ← valueOr standard.enhance EnhanceConfig.ofToml? (field "enhance")
  let settingsPath ← valueOr standard.settingsPath FilePath.ofToml? (field "settings_path")
  let modules ← valueOr standard.modules (listOf? FilePath.ofToml?) (field "modules")
  let libraryDirectories ←
    valueOr standard.libraryDirectories (listOf? FilePath.ofToml?) (field "library_dirs")
  let layout ← valueOr standard.layout ModuleLayout.ofToml? (field "layout")
  some { enhance, settingsPath, modules, libraryDirectories, layout }

/-- The settings that a text describes. -/
def ofText? (text : String) : Option ProjectConfig := do
  let members ← Toml.parse? text
  ofToml? (.table .defined members)

end ProjectConfig

/-! ## The file -/

/-- Why the settings or the structure of a project could not be read. -/
inductive ConfigError where
  /-- The settings file exists and cannot be read. -/
  | unreadable (path : FilePath) (cause : FileError)
  /-- The settings file does not describe settings. -/
  | invalid (path : FilePath)
  /-- The directory of the project cannot be listed. -/
  | unlistable (path : FilePath) (cause : FileError)
  /-- A root of sources or library classes cannot be scanned. -/
  | unscannable (error : ScanError)
  deriving DecidableEq, Repr

/-- Wording of a settings error. -/
def ConfigError.message : ConfigError → String
  | .unreadable path cause => s!"failed to read {path.text}: {cause.message}"
  | .invalid path => s!"invalid config {path.text}"
  | .unlistable path cause => s!"cannot list project directory {path.text}: {cause.message}"
  | .unscannable error => error.message

namespace ProjectConfig

/-- Name of the settings file in the directory of a project. -/
def fileName : String := "tqe.toml"

/-- Settings of the project in a directory; the standard ones where there is no file. -/
def load (tree : FileTree) (root : FilePath) : Except ConfigError ProjectConfig :=
  let path := root.child fileName
  match tree.readText path with
  | .error (.system .notFound) => .ok standard
  | .error cause => .error (.unreadable path cause)
  | .ok text =>
    match ofText? text with
    | some config => .ok config
    | none => .error (.invalid path)

end ProjectConfig
end ClassEnhancement
