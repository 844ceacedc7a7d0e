import ClassEnhancement.Proofs.Batch.Bystanders
import ClassEnhancement.Proofs.ClassFile.Format

/-!
# Legal names

The format of class files forbids four characters in the segments of a name.  A class name here is
made of letters, digits, `_` and `$`, so some legal names are refused: in either spelling, in a
class file that has such a name, and in a set with such a class file, each time by the first segment
with another character.
-/

namespace ClassEnhancement

/-! ## Names of the format -/

/-- An unqualified name: some text without the four characters that have a meaning in the format. -/
structure IsUnqualified (segment : String) : Prop where
  nonempty : segment ≠ ""
  undotted : '.' ∉ segment.toList
  unended : ';' ∉ segment.toList
  unbracketed : '[' ∉ segment.toList
  unslashed : '/' ∉ segment.toList

instance (segment : String) : Decidable (IsUnqualified segment) :=
  decidable_of_iff
    (segment ≠ "" ∧ '.' ∉ segment.toList ∧ ';' ∉ segment.toList ∧ '[' ∉ segment.toList ∧
      '/' ∉ segment.toList)
    ⟨fun ⟨nonempty, undotted, unended, unbracketed, unslashed⟩ =>
        ⟨nonempty, undotted, unended, unbracketed, unslashed⟩,
      fun unqualified => ⟨unqualified.nonempty, unqualified.undotted, unqualified.unended,
        unqualified.unbracketed, unqualified.unslashed⟩⟩

/-- A name that the format allows. -/
structure BinaryName where
  /-- Packages, outermost first, then the simple name. -/
  segments : List String
  /-- There is a simple name. -/
  nonempty : segments ≠ []
  /-- Every segment is an unqualified name. -/
  unqualified : ∀ segment ∈ segments, IsUnqualified segment

namespace BinaryName

variable (name : BinaryName)

/-- Spelling in class files. -/
def slashed : String := "/".intercalate name.segments

/-- Spelling in source files. -/
def dotted : String := ".".intercalate name.segments

/-- All characters are those of class names. -/
def IsCommon : Prop := ∀ segment ∈ name.segments, isSegment segment = true

instance (name : BinaryName) : Decidable name.IsCommon :=
  inferInstanceAs (Decidable (∀ segment ∈ name.segments, isSegment segment = true))

/-- A segment is the first one with a character that class names do not have. -/
def BreaksAt (bad : String) : Prop :=
  ∃ front back, name.segments = front ++ bad :: back ∧
    (∀ segment ∈ front, isSegment segment = true) ∧ ∃ c ∈ bad.toList, isNameChar c = false

/-- The class name with the same segments. -/
def className (common : name.IsCommon) : ClassName := ⟨name.segments, name.nonempty, common⟩

variable {name}

theorem isSegment_iff {segment : String} (unqualified : IsUnqualified segment) :
    isSegment segment = true ↔ ∀ c ∈ segment.toList, isNameChar c = true := by
  have some_char : segment.toList.isEmpty = false := by
    simpa using unqualified.nonempty
  rw [isSegment, some_char, Bool.not_false, Bool.true_and, List.all_eq_true]

/-- The characters of a name are all common, or one segment is the first that has others. -/
theorem isCommon_or_breaksAt (name : BinaryName) :
    name.IsCommon ∨ ∃ bad, name.BreaksAt bad := by
  cases found : name.segments.find? fun segment => !isSegment segment with
  | none =>
      exact .inl fun segment member => by
        simpa using List.find?_eq_none.mp found segment member
  | some bad =>
      obtain ⟨refused, front, back, split, early⟩ := List.find?_eq_some_iff_append.mp found
      refine .inr ⟨bad, front, back, split, ?_, ?_⟩
      · simpa using early
      · have unqualified := name.unqualified bad (by rw [split]; simp)
        have foreign : ¬ ∀ c ∈ bad.toList, isNameChar c = true := by
          rw [← isSegment_iff unqualified]
          simpa using refused
        simpa using foreign

/-! ## Either spelling -/

theorem pieces_dotted : Text.pieces '.' name.dotted = name.segments :=
  Text.pieces_intercalate name.nonempty fun segment member =>
    (name.unqualified segment member).undotted

theorem pieces_slashed : Text.pieces '/' name.slashed = name.segments :=
  Text.pieces_intercalate name.nonempty fun segment member =>
    (name.unqualified segment member).unslashed

/-- No segment has a dot, so the slash spelling has no ending to lose. -/
theorem withoutClassEnding_slashed : ClassName.withoutClassEnding name.slashed = name.slashed := by
  refine ClassName.withoutClassEnding_of_undotted fun member => ?_
  rcases Text.mem_intercalate member with between | ⟨segment, listed, inside⟩
  · exact absurd between (by decide)
  · exact (name.unqualified segment listed).undotted inside

theorem ofDotted_dotted : ClassName.ofDotted name.dotted = ClassName.ofSegments name.segments := by
  rw [ClassName.ofDotted, pieces_dotted]

theorem ofSlashed_slashed :
    ClassName.ofSlashed name.slashed = ClassName.ofSegments name.segments := by
  rw [ClassName.ofSlashed, withoutClassEnding_slashed, pieces_slashed]

theorem ofSegments_of_isCommon (common : name.IsCommon) :
    ClassName.ofSegments name.segments = .ok (name.className common) :=
  ClassName.ofSegments_segments (name.className common)

theorem ofSegments_of_breaksAt {bad : String} (breaks : name.BreaksAt bad) :
    ClassName.ofSegments name.segments = .error (.invalidSegment bad) := by
  obtain ⟨front, back, split, early, c, member, foreign⟩ := breaks
  have unqualified := name.unqualified bad (by rw [split]; simp)
  have refused : isSegment bad = false := by
    rw [Bool.eq_false_iff, ne_eq, isSegment_iff unqualified]
    exact fun common => absurd (common c member) (by rw [foreign]; decide)
  have found : name.segments.find? (fun segment => !isSegment segment) = some bad := by
    rw [List.find?_eq_some_iff_append]
    exact ⟨by rw [refused]; rfl, front, back, split, by simpa using early⟩
  unfold ClassName.ofSegments
  split
  · next other here =>
      obtain rfl := Option.some.inj (found.symm.trans here)
      rw [if_neg unqualified.nonempty]
  · next nothing =>
      rw [found] at nothing
      cases nothing

end BinaryName

/-! ## Class files -/

namespace ClassFile

variable {outline : Outline} {name : BinaryName} {superName : Option BinaryName}

/-- An index leads to a class reference, and the reference to the spelling of a name. -/
def Spells (entries : List Entry) (index : UInt16) (name : BinaryName) : Prop :=
  ∃ nameIndex fits, StandsAt entries index (.classRef nameIndex) ∧
    StandsAt entries nameIndex (.text name.slashed fits)

/-- A header has a class of some name, and a super class of some name or none. -/
structure Outline.IsOf (outline : Outline) (name : BinaryName) (superName : Option BinaryName) :
    Prop where
  named : Spells outline.entries outline.thisClass name
  rooted : superName = none → outline.superClass = 0
  extending : ∀ other, superName = some other → Spells outline.entries outline.superClass other

/-- All characters of the names are those of class names. -/
structure AreCommon (name : BinaryName) (superName : Option BinaryName) : Prop where
  named : name.IsCommon
  extending : ∀ other, superName = some other → other.IsCommon

/-- The first of the names that is not common breaks at a segment. -/
def BreakAt (name : BinaryName) (superName : Option BinaryName) (bad : String) : Prop :=
  name.BreaksAt bad ∨ name.IsCommon ∧ ∃ other, superName = some other ∧ other.BreaksAt bad

theorem areCommon_or_breakAt (name : BinaryName) (superName : Option BinaryName) :
    AreCommon name superName ∨ ∃ bad, BreakAt name superName bad := by
  rcases name.isCommon_or_breaksAt with common | ⟨bad, breaks⟩
  · cases superName with
    | none => exact .inl ⟨common, nofun⟩
    | some other =>
        rcases other.isCommon_or_breaksAt with other_common | ⟨bad, breaks⟩
        · refine .inl ⟨common, ?_⟩
          intro same_other same
          obtain rfl := Option.some.inj same
          exact other_common
        · exact .inr ⟨bad, .inr ⟨common, other, rfl, breaks⟩⟩
  · exact .inr ⟨bad, .inl breaks⟩

theorem className_of_spells {entries : List Entry} {index : UInt16}
    (spells : Spells entries index name) :
    (poolOf entries).className index =
      (ClassName.ofSegments name.segments).mapError HeaderError.invalidName := by
  obtain ⟨nameIndex, fits, reference, spelling⟩ := spells
  simp only [Slots.className, classText_of_standsAt reference spelling, bind, Except.bind,
    BinaryName.ofSlashed_slashed]
  cases ClassName.ofSegments name.segments <;> rfl

theorem className_of_isCommon {entries : List Entry} {index : UInt16}
    (spells : Spells entries index name) (common : name.IsCommon) :
    (poolOf entries).className index = .ok (name.className common) := by
  rw [className_of_spells spells, BinaryName.ofSegments_of_isCommon common]
  rfl

theorem className_of_breaksAt {entries : List Entry} {index : UInt16} {bad : String}
    (spells : Spells entries index name) (breaks : name.BreaksAt bad) :
    (poolOf entries).className index = .error (.invalidName (.invalidSegment bad)) := by
  rw [className_of_spells spells, BinaryName.ofSegments_of_breaksAt breaks]
  rfl

theorem superName_of_spells {entries : List Entry} {index : UInt16}
    (spells : Spells entries index name) :
    (poolOf entries).superName index = some <$> (poolOf entries).className index := by
  obtain ⟨nameIndex, fits, reference, -⟩ := spells
  rw [Slots.superName, if_neg (ne_zero_of_standsAt reference)]

/-- A class file with common names is read. -/
theorem read_of_areCommon (of : outline.IsOf name superName) (common : AreCommon name superName)
    (tail : Bytes) :
    ∃ superClass : Option ClassName,
      superClass.map ClassName.segments = superName.map BinaryName.segments ∧
        ClassHeader.read (outline.octets ++ tail) =
          .ok ⟨outline.minorVersion, outline.majorVersion, outline.accessFlags,
            name.className common.named, superClass⟩ := by
  have read := read_outline outline tail
  simp only [Slots.names, className_of_isCommon of.named common.named, bind, Except.bind] at read
  cases superName with
  | none =>
      rw [Slots.superName, if_pos (of.rooted rfl)] at read
      exact ⟨none, rfl, read⟩
  | some other =>
      have spells := of.extending other rfl
      have other_common := common.extending other rfl
      rw [superName_of_spells spells, className_of_isCommon spells other_common] at read
      exact ⟨some (other.className other_common), rfl, read⟩

/-- A class file with another name is refused by the segment that has other characters. -/
theorem read_of_breakAt {bad : String} (of : outline.IsOf name superName)
    (breaks : BreakAt name superName bad) (tail : Bytes) :
    ClassHeader.read (outline.octets ++ tail) = .error (.invalidName (.invalidSegment bad)) := by
  rw [read_outline, Slots.names]
  rcases breaks with breaks | ⟨common, other, rfl, breaks⟩
  · rw [className_of_breaksAt of.named breaks]
    rfl
  · have spells := of.extending other rfl
    rw [className_of_isCommon of.named common, superName_of_spells spells,
      className_of_breaksAt spells breaks]
    rfl

end ClassFile

/-! ## Sets of class files -/

namespace CompiledSet

open ClassFile

variable {tree : FileTree} {path : FilePath} {name : BinaryName} {superName : Option BinaryName}

/-- A path leads to a class file with these names. -/
def Holds (tree : FileTree) (path : FilePath) (name : BinaryName) (superName : Option BinaryName) :
    Prop :=
  ∃ (outline : Outline) (tail : Bytes),
    tree.read path = .ok (outline.octets ++ tail) ∧ outline.IsOf name superName

/-- A path leads to a class file whose names are common. -/
def HoldsCommon (tree : FileTree) (path : FilePath) : Prop :=
  ∃ name superName, Holds tree path name superName ∧ AreCommon name superName

theorem exists_entryOfFile (holds : Holds tree path name superName)
    (common : AreCommon name superName) :
    ∃ absolute, entryOfFile tree path = .ok (name.className common.named, absolute) := by
  obtain ⟨outline, tail, held, of⟩ := holds
  obtain ⟨superClass, -, read⟩ := read_of_areCommon of common tail
  obtain ⟨location, located, -⟩ := FileTree.read_eq_ok_iff.mp held
  refine ⟨FileTree.pathOf location, ?_⟩
  simp only [entryOfFile, held, read, FileTree.canonical, located]

theorem HoldsCommon.usable (common : HoldsCommon tree path) :
    ∃ entry, entryOfFile tree path = .ok entry := by
  obtain ⟨name, superName, holds, names⟩ := common
  obtain ⟨absolute, entry⟩ := exists_entryOfFile holds names
  exact ⟨_, entry⟩

theorem entryOfFile_of_breakAt {bad : String} (holds : Holds tree path name superName)
    (breaks : BreakAt name superName bad) :
    entryOfFile tree path =
      .error (.notClassFile path (.invalidName (.invalidSegment bad))) := by
  obtain ⟨outline, tail, held, of⟩ := holds
  simp only [entryOfFile, held, read_of_breakAt of breaks tail]

/-- Class files with common names make a set of just these classes. -/
theorem exists_ofFiles {paths : List FilePath} (common : ∀ path ∈ paths, HoldsCommon tree path) :
    ∃ compiled, ofFiles tree paths = .ok compiled ∧
      ∀ className, className ∈ compiled.keys ↔
        ∃ path ∈ paths, ∃ name superName, Holds tree path name superName ∧
          className.segments = name.segments := by
  obtain ⟨compiled, made⟩ := exists_ofFiles_of_usable fun path member => (common path member).usable
  refine ⟨compiled, made, fun className => ?_⟩
  obtain ⟨entries, read, rfl⟩ := ofFiles_eq_ok_iff.mp made
  obtain ⟨given, used⟩ := mem_of_entriesOf read
  rw [OrderedMap.mem_keys_ofList, List.mem_map]
  constructor
  · rintro ⟨entry, listed, rfl⟩
    obtain ⟨path, member, made⟩ := given entry listed
    obtain ⟨name, superName, holds, names⟩ := common path member
    obtain ⟨absolute, own⟩ := exists_entryOfFile holds names
    obtain rfl := Except.ok.inj (own.symm.trans made)
    exact ⟨path, member, name, superName, holds, rfl⟩
  · rintro ⟨path, member, name, superName, holds, same⟩
    obtain ⟨entry, listed, made⟩ := used path member
    rcases areCommon_or_breakAt name superName with names | ⟨bad, breaks⟩
    · obtain ⟨absolute, own⟩ := exists_entryOfFile holds names
      obtain rfl := Except.ok.inj (own.symm.trans made)
      exact ⟨_, listed, (ClassName.eq_of_segments same).symm⟩
    · rw [entryOfFile_of_breakAt holds breaks] at made
      cases made

theorem ofFiles_of_breakAt {front back : List FilePath} {bad : String}
    (common : ∀ path ∈ front, HoldsCommon tree path) (holds : Holds tree path name superName)
    (breaks : BreakAt name superName bad) :
    ofFiles tree (front ++ path :: back) =
      .error (.notClassFile path (.invalidName (.invalidSegment bad))) :=
  ofFiles_eq_error_iff.mpr ⟨front, path, back, rfl,
    fun earlier member => (common earlier member).usable, entryOfFile_of_breakAt holds breaks⟩

end CompiledSet

/-! ## What becomes of a legal name -/

open ClassFile CompiledSet in
/-- Both spellings of a legal name are read alike, and with all its characters common a name is
accepted wherever it stands.  Otherwise the first segment with another character is reported; of
the descriptors of packages and modules nothing is said. -/
theorem takes_legal_names :
    (∀ name : BinaryName,
      ClassName.ofSlashed name.slashed = ClassName.ofDotted name.dotted ∧
        (∀ common : name.IsCommon,
          ClassName.ofDotted name.dotted = .ok (name.className common)) ∧
        ∀ bad, SourceIndex.isDescriptor bad = false → name.BreaksAt bad →
          ClassName.ofDotted name.dotted = .error (.invalidSegment bad)) ∧
    (∀ (outline : Outline) (name : BinaryName) (superName : Option BinaryName) (tail : Bytes),
      outline.IsOf name superName →
        (∀ common : AreCommon name superName, ∃ superClass : Option ClassName,
          superClass.map ClassName.segments = superName.map BinaryName.segments ∧
            ClassHeader.read (outline.octets ++ tail) =
              .ok ⟨outline.minorVersion, outline.majorVersion, outline.accessFlags,
                name.className common.named, superClass⟩) ∧
        ∀ bad, SourceIndex.isDescriptor bad = false → BreakAt name superName bad →
          ClassHeader.read (outline.octets ++ tail) =
            .error (.invalidName (.invalidSegment bad))) ∧
    ∀ (tree : FileTree) (paths : List FilePath), (∀ path ∈ paths, HoldsCommon tree path) →
      (∃ compiled, ofFiles tree paths = .ok compiled ∧
        ∀ className, className ∈ compiled.keys ↔
          ∃ path ∈ paths, ∃ name superName, Holds tree path name superName ∧
            className.segments = name.segments) ∧
      ∀ path name superName bad rest, Holds tree path name superName →
        SourceIndex.isDescriptor bad = false → BreakAt name superName bad →
          ofFiles tree (paths ++ path :: rest) =
            .error (.notClassFile path (.invalidName (.invalidSegment bad))) := by
  refine ⟨fun name => ⟨?alike, ?accepted, ?refused⟩, fun outline name superName tail of =>
    ⟨?read, ?unread⟩, fun tree paths common => ⟨?set, ?ended⟩⟩
  case alike => rw [BinaryName.ofSlashed_slashed, BinaryName.ofDotted_dotted]
  case accepted =>
    intro common
    rw [BinaryName.ofDotted_dotted, BinaryName.ofSegments_of_isCommon common]
  case refused =>
    intro bad _ breaks
    rw [BinaryName.ofDotted_dotted, BinaryName.ofSegments_of_breaksAt breaks]
  case read => exact fun common => read_of_areCommon of common tail
  case unread => exact fun bad _ breaks => read_of_breakAt of breaks tail
  case set => exact exists_ofFiles common
  case ended =>
    exact fun path name superName bad rest holds _ breaks => ofFiles_of_breakAt common holds breaks

/-! ## A hyphen in a package -/

def hyphened : BinaryName := ⟨["com", "ac-me", "Order"], by decide, by decide⟩

/-- A legal name is no class name in either spelling. -/
theorem hyphened_refused :
    ClassName.ofSlashed hyphened.slashed = .error (.invalidSegment "ac-me") ∧
      ClassName.ofDotted hyphened.dotted = .error (.invalidSegment "ac-me") :=
  ⟨rfl, rfl⟩

def unhyphened : BinaryName := ⟨["com", "acme", "Order"], by decide, by decide⟩

namespace ClassFile

/-- The header of a class without a super class. -/
def rootOutline (name : BinaryName) (fits : (Utf8.encode name.slashed).length < 65536) :
    Outline where
  minorVersion := 0
  majorVersion := 61
  entries := [.text name.slashed fits, .classRef 1]
  accessFlags := 0x21
  thisClass := 2
  superClass := 0
  numbered := show 2 ≤ 65534 by decide

theorem isOf_rootOutline (name : BinaryName) (fits) : (rootOutline name fits).IsOf name none where
  named := ⟨1, fits, ⟨[_], [], rfl, rfl⟩, ⟨[], [_], rfl, rfl⟩⟩
  rooted _ := rfl
  extending := nofun

end ClassFile

namespace CompiledSet

open ClassFile

/-- An output directory with the class files of both names. -/
def output : FileTree :=
  ((FileTree.empty ["out"]).put ["out", "A.class"]
      (.file ((rootOutline unhyphened (by decide)).octets ++ [0]))).put
    ["out", "B.class"] (.file ((rootOutline hyphened (by decide)).octets ++ [0]))

/-- The class file of the one name is used, and the class file of the other one ends the reading. -/
theorem takes_legal_names_output :
    ClassName.ofDotted "com.acme.Order" = .ok (unhyphened.className (by decide)) ∧
      (∃ superClass, ClassHeader.read (rootOutline unhyphened (by decide)).octets =
        .ok ⟨0, 61, 0x21, unhyphened.className (by decide), superClass⟩) ∧
      (∃ compiled, ofFiles output [⟨"A.class"⟩] = .ok compiled ∧
        unhyphened.className (by decide) ∈ compiled.keys) ∧
      ofFiles output [⟨"A.class"⟩, ⟨"B.class"⟩] =
        .error (.notClassFile ⟨"B.class"⟩ (.invalidName (.invalidSegment "ac-me"))) := by
  have first : Holds output ⟨"A.class"⟩ unhyphened none :=
    ⟨rootOutline unhyphened (by decide), [0], rfl, isOf_rootOutline _ _⟩
  have second : Holds output ⟨"B.class"⟩ hyphened none :=
    ⟨rootOutline hyphened (by decide), [0], rfl, isOf_rootOutline _ _⟩
  have common : ∀ path ∈ [(⟨"A.class"⟩ : FilePath)], HoldsCommon output path := by
    intro path member
    obtain rfl := List.mem_singleton.mp member
    exact ⟨unhyphened, none, first, by decide, nofun⟩
  have breaks : BreakAt hyphened none "ac-me" :=
    .inl ⟨["com"], ["Order"], rfl, by decide, '-', by decide, by decide⟩
  have dotted := (takes_legal_names.1 unhyphened).2.1 (by decide)
  obtain ⟨superClass, -, header⟩ := (takes_legal_names.2.1 (rootOutline unhyphened (by decide))
    unhyphened none [] (isOf_rootOutline _ _)).1 ⟨by decide, nofun⟩
  rw [List.append_nil] at header
  obtain ⟨⟨compiled, read, keys⟩, refused⟩ := takes_legal_names.2.2 output _ common
  refine ⟨dotted, ⟨superClass, header⟩, ⟨compiled, read, (keys _).mpr ?_⟩,
    refused _ _ _ _ [] second rfl breaks⟩
  exact ⟨_, List.mem_singleton_self _, unhyphened, none, first, rfl⟩

end CompiledSet
end ClassEnhancement
