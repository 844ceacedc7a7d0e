import ClassEnhancement.CommandLine.Run
import ClassEnhancement.Shell.Programs

/-!
# The program

The program works on a snapshot of the working directory and of the absolute paths among its
arguments.  It answers the command line on the snapshot and then brings the files in line with it.
-/

namespace ClassEnhancement
namespace Main

/-- The location that an absolute path spells. -/
def locationOf (path : String) : Location :=
  ((FilePath.mk path).components.filterMap Component.name?)

/-- Adds what stands at a location to a tree, down to a depth. -/
def load : Nat → FileTree → Location → IO FileTree
  | 0, tree, _ => return tree
  | depth + 1, tree, location => do
    let path := (← IO.currentDir) / (FileTree.pathOf location).text
    if ← path.isDir then
      let mut tree := if location.isEmpty then tree else tree.put location .directory
      for entry in ← path.readDir do
        tree ← load depth tree (location ++ [entry.fileName])
      return tree
    else if ← path.pathExists then
      return tree.put location (.file (← IO.FS.readBinFile path).toList)
    else return tree

/-- Depth down to which directories are read. -/
def depth : Nat := 64

/-- The working directory and the absolute paths among arguments. -/
def snapshot (arguments : List String) : IO FileTree := do
  let here := locationOf (← IO.currentDir).toString
  let absolute := arguments.filter fun argument => argument.toList.head? = some '/'
  (here :: absolute.map locationOf).foldlM (load depth) (.empty here)

/-- Writes the entries that a tree has and another one does not have so. -/
def writeBack (before after : FileTree) : IO Unit := do
  for (location, entry) in after.entries.entries do
    if before.lookup? location ≠ some entry then
      let path := (← IO.currentDir) / (FileTree.pathOf location).text
      match entry with
      | .directory => IO.FS.createDirAll path
      | .file content => IO.FS.writeBinFile path (ByteArray.mk content.toArray)
      | .link _ => pure ()

/-- Removes the files that a tree had and another one does not have. -/
def removeGone (before after : FileTree) : IO Unit := do
  for (location, entry) in before.entries.entries do
    if (after.lookup? location).isNone then
      let path := (← IO.currentDir) / (FileTree.pathOf location).text
      match entry with
      | .file _ => IO.FS.removeFile path
      | _ => pure ()

/-- Prints an answer and gives its exit code. -/
def report (answer : CommandLine.Answer) : IO UInt32 := do
  IO.print answer.output
  if answer.code = 2 then IO.eprint CommandLine.HelpTopic.program.text
  if let some error := answer.error then IO.eprintln s!"Error: {error}"
  return UInt32.ofNat answer.code

end Main
end ClassEnhancement

open ClassEnhancement in
/-- Answers the command line. -/
def main (arguments : List String) : IO UInt32 := do
  let before ← Main.snapshot arguments
  let (after, answer) := CommandLine.run Shell.programs before arguments
  Main.writeBack before after
  Main.removeGone before after
  Main.report answer
