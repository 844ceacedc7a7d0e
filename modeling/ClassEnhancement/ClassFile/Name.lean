import ClassEnhancement.FilePath
import ClassEnhancement.Text.Alphanumeric
import ClassEnhancement.Text.Blank
import ClassEnhancement.Text.Quoted

/-!
# Class names

A class name is a non-empty list of segments: the packages and, last, the simple name with its
nested suffix.  It has three spellings.  Dots separate the segments in build output, slashes where
a class loader asks for a class, and in the key of a source index a nested class is one more
segment.  Every spelling names the class file below an output directory.
-/

namespace ClassEnhancement

/-- Separates a class from the class nested in it. -/
def nestedMark : Char := '$'

/-- Characters of a segment: letters, digits, `_` and the nested mark. -/
def isNameChar (c : Char) : Bool := Text.isAlphanumeric c || c == '_' || c == nestedMark

/-- A segment has at least one character, and only characters of names. -/
def isSegment (segment : String) : Bool :=
  !segment.toList.isEmpty && segment.toList.all isNameChar

/-- A binary class name. -/
structure ClassName where
  /-- Packages, outermost first, then the simple name. -/
  segments : List String
  /-- There is a simple name. -/
  nonempty : segments ≠ []
  /-- Every segment is well formed. -/
  valid : ∀ segment ∈ segments, isSegment segment = true
  deriving DecidableEq

/-- Why a text is no class name. -/
inductive NameError where
  /-- Two separators meet, or one stands at an end. -/
  | emptySegment
  /-- A segment holds a character that names do not have. -/
  | invalidSegment (segment : String)
  deriving DecidableEq, Repr

/-- Wording of a name error. -/
def NameError.message : NameError → String
  | .emptySegment => "empty segment in class name"
  | .invalidSegment segment => "invalid class name segment: '" ++ segment ++ "'"

instance : ToString NameError := ⟨NameError.message⟩

namespace ClassName

/-! ## Reading a name -/

/-- The name with the given segments; the first bad segment is reported. -/
def ofSegments (segments : List String) : Except NameError ClassName :=
  match found : segments.find? fun segment => !isSegment segment with
  | some bad => .error (if bad = "" then .emptySegment else .invalidSegment bad)
  | none =>
    if nonempty : segments = [] then .error .emptySegment
    else .ok
      { segments, nonempty
        valid := fun segment member => by
          simpa using List.find?_eq_none.mp found segment member }

/-- Reads the dotted spelling. -/
def ofDotted (text : String) : Except NameError ClassName := ofSegments (Text.pieces '.' text)

/-- File ending of compiled classes. -/
def classEnding : String := ".class"

/-- A text without one `.class` at its end. -/
def withoutClassEnding (text : String) : String :=
  match Text.dropEnding? classEnding.toList text.toList with
  | some rest => String.ofList rest
  | none => text

/-- Reads the slash spelling, with or without the ending of class files. -/
def ofSlashed (text : String) : Except NameError ClassName :=
  ofSegments (Text.pieces '/' (withoutClassEnding text))

/-- Reads either spelling: a slash decides. -/
def ofText (text : String) : Except NameError ClassName :=
  if '/' ∈ text.toList then ofSlashed text else ofDotted text

/-! ## Spellings -/

/-- Dotted spelling, `com.acme.Order$Line`. -/
def dotted (name : ClassName) : String := ".".intercalate name.segments

/-- Slash spelling, `com/acme/Order$Line`. -/
def slashed (name : ClassName) : String := "/".intercalate name.segments

/-- Key in a source index, `com.acme.Order.Line`. -/
def indexKey (name : ClassName) : String := Text.replaceChar nestedMark '.' name.dotted

/-- Location of the class file below an output directory. -/
def classFile (name : ClassName) : FilePath := ⟨name.slashed ++ classEnding⟩

/-- Package of the class; empty for the default package. -/
def package (name : ClassName) : String := ".".intercalate name.segments.dropLast

/-- Last segment, with its nested suffix. -/
def simpleName (name : ClassName) : String := name.segments.getLast name.nonempty

/-- Order by the dotted spelling. -/
def le (left right : ClassName) : Bool := decide (left.dotted ≤ right.dotted)

instance : ToString ClassName := ⟨dotted⟩

/-- Diagnostic text of a name. -/
def describe (name : ClassName) : String := "ClassName(" ++ Text.quoted name.dotted ++ ")"

/-! ## Packages -/

/-- A class is in a package when its dotted spelling continues the package after a dot.  Dots at
the end of the package do not count, and every class is in the empty package. -/
def isInPackage (name : ClassName) (package : String) : Bool :=
  let trimmed := Text.dropEnd (· == '.') package.toList
  trimmed.isEmpty || (trimmed ++ ['.']).isPrefixOf name.dotted.toList

theorem ofSegments_segments (name : ClassName) : ofSegments name.segments = .ok name := by
  unfold ofSegments
  split
  · next bad found =>
      have member := List.mem_of_find?_eq_some found
      have invalid := List.find?_some found
      simp [name.valid bad member] at invalid
  · simp [name.nonempty]

theorem segments_of_ofSegments {segments : List String} {name : ClassName}
    (read : ofSegments segments = .ok name) : name.segments = segments := by
  unfold ofSegments at read
  split at read
  · cases read
  · split at read
    · cases read
    · cases read
      rfl

example : (ofDotted "com.acme.Order$Line").map indexKey = .ok "com.acme.Order.Line" := by rfl
example : (ofSlashed "com/acme/Order.class").map dotted = .ok "com.acme.Order" := by rfl

end ClassName
end ClassEnhancement
