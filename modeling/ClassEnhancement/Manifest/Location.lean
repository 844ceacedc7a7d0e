import ClassEnhancement.FilePath

/-!
# Where manifests are

A manifest has a file name, which is looked for in a whole project, and a directory below each
output directory.
-/

namespace ClassEnhancement

/-- Name and directory of manifests. -/
structure ManifestLocation where
  /-- File name, also looked for among the files of the project. -/
  fileName : String
  /-- Directory below an output directory. -/
  directory : String
  deriving DecidableEq, Repr

namespace ManifestLocation

/-- The location where nothing else is configured. -/
def standard : ManifestLocation := ⟨"ebean-typequery.mf", "META-INF"⟩

/-- Path of a manifest below an output directory. -/
def relative (location : ManifestLocation) : FilePath :=
  FilePath.child ⟨location.directory⟩ location.fileName

end ManifestLocation
end ClassEnhancement
