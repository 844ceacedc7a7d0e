import ClassEnhancement.ClassFile.Header
import ClassEnhancement.Enhance.Transformer

/-!
# A marking transformer

This transformer stands in for one that rewrites code: it appends a mark to every class of its
packages that does not end in the mark yet.  It can load superclasses on the way, fail or panic on
chosen classes, and refuse to be created, and it records what it was asked.
-/

namespace ClassEnhancement

/-- How a marking transformer behaves. -/
structure Marking where
  /-- Whether it loads the superclass of every class. -/
  loadsSuperclasses : Bool
  /-- Dotted names of classes on which it fails. -/
  failing : List String
  /-- Dotted names of classes on which it panics. -/
  panicking : List String
  /-- Whether it refuses to be created. -/
  refusesSetup : Bool
  deriving DecidableEq, Repr

/-- What a marking transformer was asked. -/
structure MarkingRecord where
  /-- Dotted names of the classes, in order. -/
  calls : List String
  /-- Superclasses that it loaded, by their slash spelling, and whether they were found. -/
  loads : List (String × Bool)
  /-- Packages of the transformer created last. -/
  packages : Option PackageSet
  /-- Arguments of the transformer created last. -/
  arguments : Option String
  deriving DecidableEq

namespace MarkingRecord

/-- The record of a transformer that was asked nothing. -/
def blank : MarkingRecord := ⟨[], [], none, none⟩

instance : Inhabited MarkingRecord := ⟨blank⟩

/-- One more class. -/
def addCall (record : MarkingRecord) (name : ClassName) : MarkingRecord :=
  { record with calls := record.calls ++ [name.dotted] }

/-- One more superclass. -/
def addLoad (record : MarkingRecord) (classPath : String) (found : Bool) : MarkingRecord :=
  { record with loads := record.loads ++ [(classPath, found)] }

/-- One more transformer. -/
def addCreation (record : MarkingRecord) (options : AgentOptions) (packages : PackageSet) :
    MarkingRecord :=
  { record with packages := some packages, arguments := some options.arguments }

end MarkingRecord

namespace Marking

/-- The mark of a class that was dealt with. -/
def mark : Bytes := Utf8.encode "<tqe-enhanced>"

/-- Whether a class ends in the mark. -/
def isMarked (bytes : Bytes) : Bool := mark.isSuffixOf bytes

/-- A class with the mark. -/
def addMark (bytes : Bytes) : Bytes := bytes ++ mark

/-- What the transformer logs about a class. -/
def remark (name : ClassName) : String := s!"enhancing {name.dotted}\nquery bean fields added"

/-- Marks a class, or declines it. -/
def markClass (packages : PackageSet) (record : MarkingRecord) (name : ClassName) (bytes : Bytes) :
    Work MarkingRecord :=
  if packages.covers name ∧ isMarked bytes = false then
    .log (remark name) (.finish record (.replaced (addMark bytes)))
  else .finish record .declined

/-- Slash spelling of the superclass that a class names. -/
def superclassOf? (bytes : Bytes) : Option String := do
  let header ← (ClassHeader.read bytes).toOption
  let superName ← header.superName
  some superName.slashed

/-- Loads the superclass, if that is asked for and there is one, and goes on. -/
def loadSuperclass (marking : Marking) (record : MarkingRecord) (bytes : Bytes)
    (next : MarkingRecord → Work MarkingRecord) : Work MarkingRecord :=
  match superclassOf? bytes with
  | none => next record
  | some classPath =>
    if marking.loadsSuperclasses then
      .load classPath fun answer => next (record.addLoad classPath answer.isSome)
    else next record

/-- The work on one class. -/
def transform (marking : Marking) (packages : PackageSet) (record : MarkingRecord)
    (name : ClassName) (bytes : Bytes) : Work MarkingRecord :=
  let record := record.addCall name
  if name.dotted ∈ marking.panicking then
    .finish record (.panicked s!"scripted panic on {name.dotted}")
  else if name.dotted ∈ marking.failing then
    .finish record (.failed (.agent name.dotted "scripted failure"))
  else
    marking.loadSuperclass record bytes fun record => markClass packages record name bytes

/-- Creates marking transformers. -/
def factory (marking : Marking) : TransformerFactory MarkingRecord where
  create record options packages :=
    if marking.refusesSetup then (record, .refused (.setup "agent jar missing"))
    else
      (record.addCreation options packages,
        .ready ⟨fun record name bytes => marking.transform packages record name bytes⟩)

@[simp]
theorem isMarked_addMark (bytes : Bytes) : isMarked (addMark bytes) = true := by
  simp [isMarked, addMark]

theorem markClass_stays_inside (packages : PackageSet) (record : MarkingRecord) (name : ClassName)
    (bytes : Bytes) : (markClass packages record name bytes).StaysInside := by
  unfold markClass
  split <;> trivial

theorem transform_stays_inside (marking : Marking) (packages : PackageSet)
    (record : MarkingRecord) (name : ClassName) (bytes : Bytes) :
    (marking.transform packages record name bytes).StaysInside := by
  unfold transform loadSuperclass
  repeat' split
  · trivial
  · trivial
  · exact markClass_stays_inside ..
  · exact fun _ => markClass_stays_inside ..
  · exact markClass_stays_inside ..

theorem factory_stays_inside (marking : Marking) : marking.factory.StaysInside := by
  intro agent options packages ready transformer created state name bytes
  unfold factory at created
  split at created
  · cases created
  · cases created
    exact marking.transform_stays_inside packages state name bytes

end Marking
end ClassEnhancement
