import ClassEnhancement.FileTree.Operations

/-!
# The file layer of a build

A build reaches files through an access of any kind.  Reading distinguishes files that are absent
from files that cannot be read, and a file has to be found before it is written.  A file layer is
the access to the files of the tree that may refuse some of them: it may not know a file, not read
it, or not write it.
-/

namespace ClassEnhancement

/-- Result of reading a file. -/
inductive ReadOutcome where
  /-- The contents. -/
  | content (bytes : Bytes)
  /-- There is no such file. -/
  | absent
  /-- The file cannot be read. -/
  | unreadable (cause : FileError)
  deriving DecidableEq, Repr

/-- How a build reaches files. -/
structure FileAccess where
  /-- Reads a file. -/
  read : FileTree → FilePath → ReadOutcome
  /-- The path under which a known regular file is written. -/
  find? : FileTree → FilePath → Option FilePath
  /-- Replaces the contents of a file that was found. -/
  write : FileTree → FilePath → Bytes → Except FileError FileTree

/-- Whether a regular file is known. -/
def FileAccess.knows (access : FileAccess) (tree : FileTree) (path : FilePath) : Bool :=
  (access.find? tree path).isSome

/-- Files that are refused; paths are compared by components. -/
structure FileLayer where
  /-- Files that the layer does not know. -/
  withoutHandle : List FilePath
  /-- Files that it does not read. -/
  unreadable : List FilePath
  /-- Files that it does not write. -/
  failingWrites : List FilePath
  deriving DecidableEq, Repr

namespace FileLayer

/-- The layer that refuses nothing. -/
def plain : FileLayer := ⟨[], [], []⟩

/-- Whether a path is listed, in some spelling. -/
def lists (paths : List FilePath) (path : FilePath) : Bool :=
  paths.any fun listed => decide (listed.Same path)

/-- What an attempt to read comes to. -/
def outcome : Except FileError Bytes → ReadOutcome
  | .ok bytes => .content bytes
  | .error (.system .notFound) => .absent
  | .error cause => .unreadable cause

/-- Reads a file. -/
def read (layer : FileLayer) (tree : FileTree) (path : FilePath) : ReadOutcome :=
  if lists layer.unreadable path then .unreadable (.reported "access denied")
  else outcome (tree.read path)

/-- Whether the layer knows a regular file. -/
def knows (layer : FileLayer) (tree : FileTree) (path : FilePath) : Bool :=
  !lists layer.withoutHandle path && tree.isFile path

/-- Replaces the contents of a file. -/
def write (layer : FileLayer) (tree : FileTree) (path : FilePath) (bytes : Bytes) :
    Except FileError FileTree :=
  if lists layer.failingWrites path then .error (.reported "disk full") else tree.write path bytes

/-- The access that the layer gives. -/
def access (layer : FileLayer) : FileAccess where
  read := layer.read
  find? tree path := if layer.knows tree path then some path else none
  write := layer.write

instance : Coe FileLayer FileAccess := ⟨access⟩

@[simp]
theorem lists_nil (path : FilePath) : lists [] path = false := rfl

theorem read_plain (tree : FileTree) (path : FilePath) :
    plain.read tree path = outcome (tree.read path) := by
  simp [read, plain]

end FileLayer

/-- The access that refuses nothing. -/
def FileAccess.plain : FileAccess := FileLayer.plain.access

end ClassEnhancement
