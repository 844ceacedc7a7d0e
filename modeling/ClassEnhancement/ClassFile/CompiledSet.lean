import ClassEnhancement.ClassFile.Name
import ClassEnhancement.OrderedMap

/-!
# Freshly compiled classes

One compilation produces a set of classes, each with the file that holds it.  The set is read in
the order of first insertion, and the latest file of a class counts.
-/

namespace ClassEnhancement

/-- Classes of one compilation with their files. -/
abbrev CompiledSet := OrderedMap ClassName FilePath

namespace CompiledSet

/-- File of the class with a dotted spelling. -/
def fileOf? (classes : CompiledSet) (dotted : String) : Option FilePath :=
  (classes.entries.find? fun entry => entry.1.dotted == dotted).map Prod.snd

/-- Whether two sets hold the same classes in the same files, in any order. -/
def agrees (left right : CompiledSet) : Bool :=
  left.size == right.size && left.entries.all fun entry =>
    match right.find? entry.1 with
    | some file => decide (file.Same entry.2)
    | none => false

/-- Classes in the order of their names. -/
def sortedNames (classes : CompiledSet) : List ClassName := classes.keys.mergeSort ClassName.le

end CompiledSet
end ClassEnhancement
