import ClassEnhancement.ClassFile.Name
import ClassEnhancement.FileTree.Walk
import ClassEnhancement.Source.Index

/-!
# Scanning roots

Scanning a root registers every file below it and declares the classes that file paths name:
`com/acme/Order.java` declares `com.acme.Order`.  Source roots declare by the extensions of source
files, library roots by that of compiled classes.  The first declaration of a name wins.
-/

namespace ClassEnhancement

/-- What one scan met. -/
structure ScanCount where
  /-- Files registered. -/
  files : Nat
  /-- Declarations added. -/
  classes : Nat
  /-- Declarations of a name that was declared before. -/
  duplicates : Nat
  deriving DecidableEq, Repr

/-- A scan that could not reach everything. -/
structure ScanError where
  /-- Root of the scan. -/
  root : FilePath
  /-- What ended the walk. -/
  cause : WalkError
  deriving DecidableEq, Repr

/-- Wording of a scan error. -/
def ScanError.message (error : ScanError) : String :=
  s!"failed to walk {error.root.text}: {error.cause.message}"

namespace SourceIndex

/-- Extensions of source files. -/
def sourceExtensions : List String := ["java", "kt", "groovy", "scala"]

/-- Extension of compiled classes. -/
def classExtension : String := "class"

/-- Whether a file of a root of the given kind declares a class, by its extension. -/
def declares (origin : Origin) (file : FilePath) : Bool :=
  match file.extension?, origin with
  | none, _ => false
  | some extension, .source => sourceExtensions.contains extension
  | some extension, .library => extension == classExtension

/-- Files of these stems describe a module or a package and declare no class. -/
def isDescriptor (stem : String) : Bool := stem == "module-info" || stem == "package-info"

/-- The key of the class that a file below a root names. -/
def declaredKey? (root file : FilePath) : Option String := do
  let below ← file.componentsBelow? root
  let stems := (FilePath.ofComponents below).withoutExtension.components.map Component.text
  let simple ← stems.getLast?
  if isDescriptor simple then none
  else (ClassName.ofSlashed ("/".intercalate stems)).toOption.map ClassName.indexKey

/-- Counts of a scan that has met nothing. -/
def nothingScanned : ScanCount := ⟨0, 0, 0⟩

/-- Registers a file and declares the class that it names. -/
def scanFile (root : FilePath) (origin : Origin) (index : SourceIndex) (count : ScanCount)
    (file : FilePath) : SourceIndex × ScanCount :=
  let index := index.register file
  let count := { count with files := count.files + 1 }
  if declares origin file then
    match declaredKey? root file with
    | none => (index, count)
    | some key =>
      match index.insert ⟨key, file, origin⟩ with
      | .ok extended => (extended, { count with classes := count.classes + 1 })
      | .error _ => (index, { count with duplicates := count.duplicates + 1 })
  else (index, count)

/-- Scans files in the order in which a walk met them. -/
def scanFiles (root : FilePath) (origin : Origin) (index : SourceIndex) (files : List FilePath) :
    SourceIndex × ScanCount :=
  files.foldl (fun state file => scanFile root origin state.1 state.2 file)
    (index, nothingScanned)

/-- Scans a root; one that is no directory holds nothing.  Files met before an error stay. -/
def scan (index : SourceIndex) (tree : FileTree) (root : FilePath) (origin : Origin) :
    SourceIndex × Except ScanError ScanCount :=
  if tree.isDirectory root then
    let visit := tree.walk root
    let (scanned, count) := scanFiles root origin index visit.files
    match visit.stopped with
    | some cause => (scanned, .error ⟨root, cause⟩)
    | none => (scanned, .ok count)
  else (index, .ok nothingScanned)

/-- Scans roots one after another, up to the first error. -/
def scanAll (index : SourceIndex) (tree : FileTree) :
    List (FilePath × Origin) → Except ScanError SourceIndex
  | [] => .ok index
  | (root, origin) :: rest =>
    match index.scan tree root origin with
    | (scanned, .ok _) => scanned.scanAll tree rest
    | (_, .error error) => .error error

example : declaredKey? ⟨"s"⟩ ⟨"s/com/acme/Order$Line.java"⟩ = some "com.acme.Order.Line" := by rfl

end SourceIndex
end ClassEnhancement
