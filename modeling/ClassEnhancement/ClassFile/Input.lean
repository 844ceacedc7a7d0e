import ClassEnhancement.ClassFile.CompiledSet
import ClassEnhancement.ClassFile.Header
import ClassEnhancement.FileTree.Operations

/-!
# Compiled classes from files

Class files that are given by their paths form a compiled set: each file stands, under its absolute
path, for the class that its header names.  The first file that cannot be used ends the reading.
-/

namespace ClassEnhancement

/-- Why a class file could not be used. -/
inductive InputError where
  /-- The file cannot be read. -/
  | unreadable (path : FilePath) (cause : FileError)
  /-- The file is no class file. -/
  | notClassFile (path : FilePath) (cause : HeaderError)
  deriving DecidableEq, Repr

/-- Wording of an input error. -/
def InputError.message : InputError → String
  | .unreadable path cause => s!"cannot read class file {path.text}: {cause.message}"
  | .notClassFile path cause => s!"{path.text} is not a class file: {cause.message}"

namespace CompiledSet

/-- The class that a file holds, with the absolute path of the file. -/
def entryOfFile (tree : FileTree) (path : FilePath) : Except InputError (ClassName × FilePath) :=
  match tree.read path with
  | .error cause => .error (.unreadable path cause)
  | .ok bytes =>
    match ClassHeader.read bytes with
    | .error cause => .error (.notClassFile path cause)
    | .ok header =>
      match tree.canonical path with
      | .error cause => .error (.unreadable path cause)
      | .ok absolute => .ok (header.name, absolute)

/-- The compiled set of the classes that files hold.  Of two files with one class the later
counts. -/
def ofFiles (tree : FileTree) (paths : List FilePath) : Except InputError CompiledSet := do
  let entries ← paths.mapM (entryOfFile tree)
  return .ofList entries

end CompiledSet
end ClassEnhancement
