import ClassEnhancement.Text.Split

/-!
# File paths

A path keeps the text it was given.  Its meaning is a list of components: repeated separators, a
separator at the end and inner `.` components do not count, a leading `.` does, and `..` is never
resolved.  Containment, equality up to spelling and order are those of the components.
-/

namespace ClassEnhancement

/-- One component of a path. -/
inductive Component where
  /-- The root of an absolute path. -/
  | root
  /-- A leading `.`. -/
  | current
  /-- `..`. -/
  | parent
  /-- A named file or directory. -/
  | name (text : String)
  deriving DecidableEq, Repr

namespace Component

/-- Code points that order components: the root, `.`, `..`, then names by code point. -/
def sortKey : Component → List Nat
  | root => [0]
  | current => [1]
  | parent => [2]
  | name text => 3 :: text.toList.map Char.toNat

/-- Spelling of a component inside a path. -/
def text : Component → String
  | root => "/"
  | current => "."
  | parent => ".."
  | name text => text

/-- The name that a component carries. -/
def name? : Component → Option String
  | name text => some text
  | _ => none

end Component

/-- A path, as spelled. -/
structure FilePath where
  /-- The spelling. -/
  text : String
  deriving DecidableEq, Repr, Inhabited

namespace FilePath

instance : ToString FilePath := ⟨FilePath.text⟩

/-! ## Components -/

/-- The component that one piece between separators stands for. -/
def componentOfPiece? (piece : String) : Option Component :=
  if piece = "" ∨ piece = "." then none
  else if piece = ".." then some .parent
  else some (.name piece)

/-- A path that starts at the root. -/
def isAbsolute (path : FilePath) : Bool := path.text.toList.head? = some '/'

/-- Components in order. -/
def components (path : FilePath) : List Component :=
  let pieces := Text.pieces '/' path.text
  let front : List Component :=
    if path.isAbsolute then [.root] else if pieces.head? = some "." then [.current] else []
  front ++ pieces.filterMap componentOfPiece?

/-- Two spellings of the same path. -/
def Same (left right : FilePath) : Prop := left.components = right.components

instance (left right : FilePath) : Decidable (Same left right) :=
  inferInstanceAs (Decidable (left.components = right.components))

@[refl]
theorem Same.refl (path : FilePath) : Same path path := rfl

theorem Same.symm {left right : FilePath} (same : Same left right) : Same right left :=
  Eq.symm same

theorem Same.trans {left middle right : FilePath} (first : Same left middle)
    (second : Same middle right) : Same left right :=
  Eq.trans first second

/-- Equality of lists of paths, component by component. -/
def SameAll (left right : List FilePath) : Prop :=
  left.map components = right.map components

instance (left right : List FilePath) : Decidable (SameAll left right) :=
  inferInstanceAs (Decidable (_ = _))

/-- Component-wise beginning. -/
def StartsWith (path root : FilePath) : Prop := root.components <+: path.components

instance (path root : FilePath) : Decidable (StartsWith path root) :=
  inferInstanceAs (Decidable (root.components <+: path.components))

/-- The components below a root, when the path starts with it. -/
def componentsBelow? (path root : FilePath) : Option (List Component) :=
  if path.StartsWith root then some (path.components.drop root.components.length) else none

/-- Strict order by components. -/
def lt (left right : FilePath) : Bool :=
  (left.components.map Component.sortKey).lex (right.components.map Component.sortKey)
    fun first second => first.lex second Nat.blt

/-- Order by components. -/
def le (left right : FilePath) : Bool := !right.lt left

/-- The number of components. -/
def depth (path : FilePath) : Nat := path.components.length

/-- The last component, when it is a name. -/
def fileName? (path : FilePath) : Option String :=
  path.components.getLast?.bind Component.name?

/-! ## Extensions -/

/-- A file name cut at its last dot, unless that dot comes first. -/
def splitExtension (name : String) : String × Option String :=
  match Text.splitLast? '.' name.toList with
  | some (before, after) =>
    if before.isEmpty then (name, none) else (String.ofList before, some (String.ofList after))
  | none => (name, none)

/-- A file name without its extension. -/
def stemOf (name : String) : String := (splitExtension name).1

/-- The extension of the file name. -/
def extension? (path : FilePath) : Option String :=
  path.fileName?.bind fun name => (splitExtension name).2

/-- A piece that adds no component where it stands at the end. -/
def isIdlePiece (piece : String) : Bool := piece = "" ∨ piece = "."

/-- Pieces without the idle ones at the end. -/
def dropIdle (pieces : List String) : List String := (pieces.reverse.dropWhile isIdlePiece).reverse

/-- What is left of a file name when its extension is cut off.  Where only a dot stands before the
dot of the extension, both stay: `..` has no stem to be cut to. -/
def bareName (name : String) : String := if stemOf name = "." then ".." else stemOf name

/-- The path with its file name cut before the extension. -/
def withoutExtension (path : FilePath) : FilePath :=
  match path.fileName? with
  | none => path
  | some name =>
    ⟨"/".intercalate ((dropIdle (Text.pieces '/' path.text)).dropLast ++ [bareName name])⟩

/-! ## Building paths -/

/-- A path below another; an absolute path stands alone. -/
def join (base relative : FilePath) : FilePath :=
  if relative.isAbsolute then relative
  else if base.text = "" ∨ base.text.toList.getLast? = some '/' then ⟨base.text ++ relative.text⟩
  else ⟨base.text ++ "/" ++ relative.text⟩

/-- A path below another, given by its text. -/
def child (base : FilePath) (relative : String) : FilePath := base.join ⟨relative⟩

/-- The path that a list of components spells. -/
def ofComponents (components : List Component) : FilePath :=
  ⟨"/".intercalate (components.map Component.text)⟩

/-- The path without its last component. -/
def parent? (path : FilePath) : Option FilePath :=
  match path.components.getLast? with
  | none => none
  | some .root => none
  | some .current => some ⟨""⟩
  | some _ =>
    let pieces := Text.pieces '/' path.text
    let kept := dropIdle (dropIdle pieces).dropLast
    if kept = [] then
      some ⟨if path.isAbsolute then "/" else if pieces.head? = some "." then "." else ""⟩
    else some ⟨"/".intercalate kept⟩

example : components ⟨"./a//b/./c/"⟩ = [.current, .name "a", .name "b", .name "c"] := by decide
example : components ⟨"/a/../."⟩ = [.root, .name "a", .parent] := by decide
example : splitExtension ".java" = (".java", none) := by decide
example : splitExtension "a.b.java" = ("a.b", some "java") := by decide
example : parent? ⟨"a/./b/"⟩ = some ⟨"a"⟩ ∧ parent? ⟨"/a"⟩ = some ⟨"/"⟩ := by decide
example : withoutExtension ⟨"a/b.c.java"⟩ = ⟨"a/b.c"⟩ ∧ withoutExtension ⟨"a/..java"⟩ = ⟨"a/.."⟩ := by
  decide
example : parent? ⟨"./a"⟩ = some ⟨"."⟩ ∧ parent? ⟨"a"⟩ = some ⟨""⟩ := by decide

end FilePath
end ClassEnhancement
