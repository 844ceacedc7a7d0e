import ClassEnhancement.FileTree.Operations
import ClassEnhancement.Shell.Octets
import ClassEnhancement.Shell.Pattern

/-!
# Patterns of file names

A field with wildcards that are not quoted stands for the paths that it matches.  A pattern matches
within one directory only, and names that begin with a dot have to be asked for.
-/

namespace ClassEnhancement
namespace Shell

/-- Characters with whether they are quoted. -/
abbrev Marked := List (Char × Bool)

namespace Marked

/-- The text without its marks. -/
def text (marked : Marked) : String := String.ofList (marked.map Prod.fst)

/-- Whether some wildcard is not quoted. -/
def hasWildcard (marked : Marked) : Bool :=
  List.any marked fun (c, quoted) => !quoted && "*?[".toList.contains c

/-- Whether a name may be matched: one that begins with a dot needs a dot in the pattern. -/
def admits (pattern : Marked) (name : String) : Bool :=
  name.toList.head? != some '.' || (pattern.head?.map Prod.fst) == some '.'

/-- Names in a directory that a pattern matches, in order. -/
def matchingNames (tree : FileTree) (directory : String) (pattern : Marked) : List String :=
  let path : FilePath := if directory = "" then ⟨"."⟩ else pathOfText directory
  let names := ((tree.list path).toOption.getD []).map textFrom
  let fits := Pattern.ofChars pattern
  (names.filter fun name => pattern.admits name && fits.matchesText name.toList)
    |>.mergeSort fun left right => decide (left ≤ right)

/-- Paths below a directory that match, step by step. -/
def pathsBelow (tree : FileTree) : String → List Marked → List String
  | _, [] => []
  | directory, [last] =>
    let names := if last.hasWildcard then matchingNames tree directory last else [last.text]
    (names.map (directory ++ ·)).filter fun path => (tree.find? (pathOfText path)).isSome
  | directory, step :: rest =>
    let names := if step.hasWildcard then matchingNames tree directory step else [step.text]
    names.flatMap fun name => pathsBelow tree (directory ++ name ++ "/") rest

/-- The texts that a field stands for: the paths that it matches, or itself. -/
def expandPaths (tree : FileTree) (field : Marked) : List String :=
  if field.hasWildcard then
    match pathsBelow tree "" (List.splitOnP (fun mark => mark.1 == '/') field) with
    | [] => [field.text]
    | paths => paths
  else [field.text]

end Marked
end Shell
end ClassEnhancement
