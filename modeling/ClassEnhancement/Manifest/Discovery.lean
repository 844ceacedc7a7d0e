import ClassEnhancement.Build.Context
import ClassEnhancement.Manifest.Attributes
import ClassEnhancement.Manifest.Location
import ClassEnhancement.Manifest.PackageSet

/-!
# Discovering packages

Two kinds of manifests name the packages to enhance: the manifest in the output directory of each
module, by an attribute, and every file of the project with the name of manifests, as a raw list.
Each manifest contributes on its own.  An absent one is passed over in silence; one that cannot be
used contributes nothing but a warning.
-/

namespace ClassEnhancement

/-- What one manifest contributes. -/
structure Contribution where
  /-- A raw list of packages. -/
  raw : Option String
  /-- Why the manifest could not be used. -/
  warning : Option Message
  deriving DecidableEq, Repr

namespace Contribution

/-- Nothing at all. -/
def nothing : Contribution := ⟨none, none⟩

/-- A raw list. -/
def list (raw : String) : Contribution := ⟨some raw, none⟩

/-- A warning and nothing else. -/
def unusable (text : String) : Contribution := ⟨none, some (.warning text)⟩

/-- The contribution of a manifest in an output directory, by what reading it came to. -/
def ofOutput (relative directory : FilePath) : ReadOutcome → Contribution
  | .absent => nothing
  | .unreadable cause =>
    unusable s!"Error reading {relative.text} from {directory.text} error:{cause.message}"
  | .content bytes =>
    match ManifestAttributes.parse (Utf8.decodeLenient bytes) with
    | .error error =>
      unusable s!"Error reading {relative.text} from {directory.text} error:{error.message}"
    | .ok attributes =>
      match attributes.packages? with
      | some raw => list raw
      | none => nothing

/-- The contribution of a file with the name of manifests, by what reading it came to. -/
def ofIndexed (path : FilePath) : ReadOutcome → Contribution
  | .absent => nothing
  | .unreadable cause => unusable s!"Error reading {path.text} error:{cause.message}"
  | .content bytes => list (Utf8.decodeLenient bytes)

/-- The contribution of a module. -/
def ofModule (layer : FileAccess) (tree : FileTree) (location : ManifestLocation)
    (owner : ProjectModule) : Contribution :=
  match owner.output with
  | none => nothing
  | some directory =>
    ofOutput location.relative directory (layer.read tree (directory.join location.relative))

/-- The contribution of a registered file. -/
def ofFile (layer : FileAccess) (tree : FileTree) (path : FilePath) : Contribution :=
  ofIndexed path (layer.read tree path)

end Contribution

/-- Packages found, and warnings about manifests that could not be used. -/
structure Discovery where
  /-- All packages named. -/
  packages : PackageSet
  /-- Warnings in the order of the manifests. -/
  warnings : List Message

namespace Discovery

/-- What contributions come to together. -/
def ofContributions (contributions : List Contribution) : Discovery where
  packages :=
    (contributions.filterMap Contribution.raw).foldl (fun set raw => (set.addRaw raw).2) .empty
  warnings := contributions.filterMap Contribution.warning

/-- Looks at the manifests of modules and at those among the files of the project. -/
def find (context : BuildContext) (tree : FileTree) (modules : List ProjectModule)
    (location : ManifestLocation) : Discovery :=
  ofContributions
    (modules.map (Contribution.ofModule context.layer tree location)
      ++ (context.project.index.filesNamed location.fileName).map
        (Contribution.ofFile context.layer tree))

/-- Looks at the manifests of the whole project. -/
def ofProject (context : BuildContext) (tree : FileTree) (location : ManifestLocation) :
    Discovery :=
  find context tree context.project.modules location

end Discovery
end ClassEnhancement
