import ClassEnhancement.OrderedMap
import ClassEnhancement.Text.Lines
import ClassEnhancement.Text.Split

/-!
# Manifest attributes

The main section of a manifest ends at the first empty line.  Each line is an attribute `Key: value`
or, when it starts with a space, a continuation that is appended to the value before it.  Names do
not distinguish the case of ASCII letters, and the last attribute of a name counts.
-/

namespace ClassEnhancement

/-- Why a text is no manifest. -/
inductive ManifestError where
  /-- A line is neither an attribute nor a continuation. -/
  | malformedLine (line : Nat) (content : String)
  /-- A continuation has no attribute before it. -/
  | orphanContinuation (line : Nat)
  deriving DecidableEq, Repr

/-- Wording of a manifest error. -/
def ManifestError.message : ManifestError → String
  | .malformedLine line content => s!"malformed manifest line {line}: '{content}'"
  | .orphanContinuation line => s!"continuation without attribute at line {line}"

instance : ToString ManifestError := ⟨ManifestError.message⟩

namespace Manifest

/-! ## Lines -/

/-- What one line of the main section is. -/
inductive Line where
  /-- A name as spelled, and the beginning of its value. -/
  | attribute (name value : List Char)
  /-- More of the value before it. -/
  | continuation (more : List Char)
  /-- Neither of these. -/
  | malformed
  deriving DecidableEq, Repr

/-- The parts before and after the first colon that a space follows. -/
def splitColon? : List Char → Option (List Char × List Char)
  | ':' :: ' ' :: rest => some ([], rest)
  | [] => none
  | c :: rest => (splitColon? rest).map fun (before, after) => (c :: before, after)

/-- Name and value of an attribute line; a colon at the end has an empty value. -/
def splitAttribute? (line : List Char) : Option (List Char × List Char) :=
  match splitColon? line with
  | some parts => some parts
  | none => (Text.dropEnding? [':'] line).map fun name => (name, [])

/-- Reads a line of the main section; a name is not blank. -/
def Line.ofChars : List Char → Line
  | ' ' :: more => .continuation more
  | line =>
    match splitAttribute? line with
    | some (name, value) => if (Text.trim name).isEmpty then .malformed else .attribute name value
    | none => .malformed

/-- The key under which a name is kept: trimmed, with small ASCII letters. -/
def keyOf (name : List Char) : String := String.ofList ((Text.trim name).map Char.toLower)

/-- The lines before the first empty line. -/
def mainSection (text : String) : List (List Char) :=
  (Text.lines text.toList).takeWhile fun line => !line.isEmpty

end Manifest

/-- Attributes of a main section by key. -/
abbrev ManifestAttributes := OrderedMap String String

namespace ManifestAttributes

open Manifest

/-- Reads lines, given the number of the next one, the key that a continuation extends and the
attributes so far. -/
def ofLines (number : Nat) (current : Option String) (attributes : ManifestAttributes) :
    List (List Char) → Except ManifestError ManifestAttributes
  | [] => .ok attributes
  | line :: rest =>
    match Line.ofChars line with
    | .malformed => .error (.malformedLine number (String.ofList line))
    | .attribute name value =>
      ofLines (number + 1) (some (keyOf name))
        (attributes.insert (keyOf name) (String.ofList value)) rest
    | .continuation more =>
      match current with
      | none => .error (.orphanContinuation number)
      | some key =>
        ofLines (number + 1) current (attributes.modify key (· ++ String.ofList more)) rest

/-- Reads the main section of a manifest. -/
def parse (text : String) : Except ManifestError ManifestAttributes :=
  ofLines 1 none .empty (mainSection text)

/-- Value of an attribute, whatever the case of its name. -/
def get? (attributes : ManifestAttributes) (name : String) : Option String :=
  attributes.find? (String.ofList (name.toList.map Char.toLower))

/-- The attribute that lists packages. -/
def packages? (attributes : ManifestAttributes) : Option String := attributes.get? "packages"

example : (parse "Packages: a.b,\r\n c\r\n\r\n bad").map packages? = .ok (some "a.b,c") := by rfl

end ManifestAttributes
end ClassEnhancement
