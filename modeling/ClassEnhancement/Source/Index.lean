import ClassEnhancement.FilePath

/-!
# Source index

The index knows where the declarations of a whole project are, and which files carry a name.  Keys
are dotted, with nested classes as further segments.  A class that is not declared itself is found
through its longest declared ancestor, segment by segment: both spellings are compared with a dot
at the end, so `com.acme.Order` is an ancestor of `com.acme.Order.Line` and not of
`com.acme.OrderLine`.
-/

namespace ClassEnhancement

/-- Origin of a declaration. -/
inductive Origin where
  /-- A source file of the project. -/
  | source
  /-- A compiled class of a library. -/
  | library
  deriving DecidableEq, Repr

/-- A declared class. -/
structure Declaration where
  /-- Dotted name, nested classes as further segments. -/
  name : String
  /-- File that holds the declaration. -/
  file : FilePath
  /-- Project source or library. -/
  origin : Origin
  deriving DecidableEq, Repr

/-- Declarations and registered files of a project. -/
structure SourceIndex where
  /-- Declarations in the order of insertion. -/
  declarations : List Declaration
  /-- Registered files in the order of registration. -/
  files : List FilePath
  deriving DecidableEq, Repr

/-- The name is declared already, in another file or the same. -/
structure DuplicateClass where
  /-- Name declared twice. -/
  name : String
  /-- File of the first declaration. -/
  first : FilePath
  deriving DecidableEq, Repr

/-- Wording of a duplicate declaration. -/
def DuplicateClass.message (duplicate : DuplicateClass) : String :=
  s!"duplicate class: {duplicate.name} already declared in {duplicate.first.text}"

namespace SourceIndex

/-- The index of nothing. -/
def empty : SourceIndex := ⟨[], []⟩

instance : Inhabited SourceIndex := ⟨empty⟩

/-! ## Declarations -/

/-- The declaration of exactly this name. -/
def declared? (index : SourceIndex) (name : String) : Option Declaration :=
  index.declarations.find? fun declaration => declaration.name == name

/-- Adds a declaration; the first one of a name wins. -/
def insert (index : SourceIndex) (declaration : Declaration) : Except DuplicateClass SourceIndex :=
  match index.declared? declaration.name with
  | some first => .error ⟨declaration.name, first.file⟩
  | none => .ok { index with declarations := index.declarations ++ [declaration] }

/-- Adds a declaration unless its name is declared. -/
def insertFirst (index : SourceIndex) (declaration : Declaration) : SourceIndex :=
  match index.insert declaration with
  | .ok extended => extended
  | .error _ => index

/-- A key with its closing dot. -/
def closed (key : String) : List Char := key.toList ++ ['.']

/-- Whether a declared name is the key or one of its ancestors. -/
def covers (name key : String) : Bool := (closed name).isPrefixOf (closed key)

/-- The longer of two declared names, the first one where they are equally long. -/
def longer (best : Option Declaration) (next : Declaration) : Option Declaration :=
  match best with
  | none => some next
  | some current =>
    if current.name.toList.length < next.name.toList.length then some next else some current

/-- The declaration of a key, or of its longest declared ancestor. -/
def find? (index : SourceIndex) (key : String) : Option Declaration :=
  (index.declarations.filter fun declaration => covers declaration.name key).foldl longer none

/-- Number of declarations. -/
def size (index : SourceIndex) : Nat := index.declarations.length

/-! ## Files by name -/

/-- Notes a file under its name; a file without a name, or noted before, changes nothing. -/
def register (index : SourceIndex) (file : FilePath) : SourceIndex :=
  if file.fileName?.isNone || index.files.any fun known => decide (known.Same file) then index
  else { index with files := index.files ++ [file] }

/-- The registered files of a name, in the order of registration. -/
def filesNamed (index : SourceIndex) (name : String) : List FilePath :=
  index.files.filter fun file => file.fileName? == some name

@[simp]
theorem declarations_register (index : SourceIndex) (file : FilePath) :
    (index.register file).declarations = index.declarations := by
  unfold register
  split <;> rfl

theorem files_of_insert {index extended : SourceIndex} {declaration : Declaration}
    (inserted : index.insert declaration = .ok extended) : extended.files = index.files := by
  unfold insert at inserted
  split at inserted
  · cases inserted
  · cases inserted
    rfl

end SourceIndex
end ClassEnhancement
