import ClassEnhancement.Proofs.Manifest.WireForm
import ClassEnhancement.Proofs.Source.Spelling

/-!
# Classes of packages

A package is matched by its segments, although texts are compared: a class belongs to a package
when the segments of its name go on after those of the package.  So a package matches no class of a
package whose name starts with the same letters, nor a class of its own name, nor one nested in that
class.
-/

namespace ClassEnhancement

/-! ## Segments -/

/-- A text without the dots at its end. -/
def undotted (text : String) : String := String.ofList (text.toList.rdropWhile (· == '.'))

namespace ClassName

variable {name : ClassName} {package : String}

/-- The segments of a class go on after those of a package. -/
def IsBelow (name : ClassName) (package : String) : Prop :=
  ∃ inner, inner ≠ [] ∧ name.segments = Text.pieces '.' package ++ inner

theorem isBelow_iff_dotted :
    name.IsBelow package ↔ ∃ more, name.dotted = package ++ "." ++ more := by
  rw [IsBelow, ← pieces_dotted]
  exact Text.goesOn_iff.symm

theorem isInPackage_iff :
    name.isInPackage package = true ↔ undotted package = "" ∨ name.IsBelow (undotted package) := by
  have trimmed : Text.dropEnd (· == '.') package.toList = (undotted package).toList := by
    rw [undotted, String.toList_ofList]
    rfl
  rw [isInPackage, trimmed, isBelow_iff_dotted]
  generalize undotted package = package
  simp only [Bool.or_eq_true, List.isEmpty_iff, String.toList_eq_nil_iff,
    List.isPrefixOf_iff_prefix]
  refine or_congr_right ?_
  constructor
  · rintro ⟨more, split⟩
    refine ⟨String.ofList more, ?_⟩
    rw [← String.toList_inj, ← split]
    simp
  · rintro ⟨more, split⟩
    exact ⟨more.toList, by simp [split]⟩

theorem pieces_package (packaged : name.package ≠ "") :
    Text.pieces '.' name.package = name.segments.dropLast := by
  refine Text.pieces_intercalate ?_ fun segment listed => ?_
  · intro bare
    rw [package, bare] at packaged
    exact packaged rfl
  · exact notMem_of_isSegment (name.valid segment (List.mem_of_mem_dropLast listed)) isNameChar_dot

/-- A class is below its own package and below those that its package goes on from. -/
theorem isBelow_iff_package (named : package ≠ "") :
    name.IsBelow package ↔
      name.package = package ∨ ∃ more, name.package = package ++ "." ++ more := by
  constructor
  · rintro ⟨inner, filled, split⟩
    have outer : name.segments.dropLast = Text.pieces '.' package ++ inner.dropLast := by
      rw [split, List.dropLast_append_of_ne_nil filled]
    rw [ClassName.package, outer]
    by_cases direct : inner.dropLast = []
    · left
      rw [direct, List.append_nil]
      exact Text.intercalate_pieces '.' package
    · right
      refine ⟨".".intercalate inner.dropLast, ?_⟩
      rw [String.intercalate_append_of_ne_nil (Text.pieces_ne_nil '.' package) direct]
      congr 2
      exact Text.intercalate_pieces '.' package
  · rintro (rfl | ⟨more, split⟩)
    · refine ⟨[name.simpleName], by simp, ?_⟩
      rw [pieces_package named, ← name.segments_eq]
    · have packaged : name.package ≠ "" := by
        rw [split]
        simp [named]
      have goes_on : ∃ more, name.package = package ++ String.singleton '.' ++ more := ⟨more, split⟩
      obtain ⟨inner, -, outer⟩ := Text.goesOn_iff.mp goes_on
      refine ⟨inner ++ [name.simpleName], by simp, ?_⟩
      rw [← List.append_assoc, ← outer, pieces_package packaged, ← name.segments_eq]

/-! ## Classes that a package misses -/

/-- A class that a package has nothing to do with. -/
inductive Misses (package : String) (name : ClassName) : Prop
  /-- Some segment of the package is another one in the name. -/
  | sibling {front back inner : List String} {segment other : String}
      (split : Text.pieces '.' package = front ++ segment :: back)
      (apart : name.segments = front ++ other :: inner) (different : segment ≠ other)
  /-- The package is the name of the class. -/
  | same (named : name.dotted = package)
  /-- The class is nested in the class that the package is the name of. -/
  | nested {suffix : String}
      (named : name.dotted = package ++ String.singleton nestedMark ++ suffix)

theorem Misses.not_isBelow (misses : Misses package name) : ¬ name.IsBelow package := by
  cases misses with
  | @sibling front back inner segment other split apart different =>
      rintro ⟨deeper, -, continued⟩
      rw [split, apart, List.append_assoc, List.append_cancel_left_eq] at continued
      exact different (List.cons.inj continued).1.symm
  | same named =>
      intro below
      obtain ⟨more, longer⟩ := isBelow_iff_dotted.mp below
      have lengths := congrArg String.length (named.symm.trans longer)
      rw [String.length_append, String.length_append] at lengths
      have dot : ".".length = 1 := rfl
      omega
  | @nested suffix named =>
      intro below
      obtain ⟨more, longer⟩ := isBelow_iff_dotted.mp below
      have ends := congrArg String.toList (named.symm.trans longer)
      simp [nestedMark] at ends

end ClassName

/-! ## Packages of raw lists -/

/-- An entry of a raw list names a package, less one `.*` and then all dots at the end. -/
structure NamesPackage (entry package : String) : Prop where
  unlabelled : entry.toList.getLast? ≠ some ':'
  filled : package ≠ ""
  kept : (∃ front, entry = front ++ ".*" ∧ package = undotted front) ∨
    ¬ ['.', '*'] <:+ entry.toList ∧ package = undotted entry

theorem withoutWildcard_append (front : List Char) :
    withoutWildcard (front ++ ['.', '*']) = front := by
  rw [withoutWildcard, Text.dropEnding?_append]

theorem kept_iff {entry package : String} :
    package.toList = Text.dropEnd (· == '.') (withoutWildcard entry.toList) ↔
      (∃ front, entry = front ++ ".*" ∧ package = undotted front) ∨
        ¬ ['.', '*'] <:+ entry.toList ∧ package = undotted entry := by
  have undotted_iff (text : String) :
      package.toList = Text.dropEnd (· == '.') text.toList ↔ package = undotted text := by
    rw [← String.toList_inj, undotted, String.toList_ofList]
    rfl
  by_cases wildcard : ['.', '*'] <:+ entry.toList
  · obtain ⟨chars, split⟩ := wildcard
    obtain rfl : entry = String.ofList chars ++ ".*" := by
      rw [← String.toList_inj, ← split]
      simp
    have dropped : withoutWildcard (String.ofList chars ++ ".*").toList =
        (String.ofList chars).toList := by
      rw [← split, withoutWildcard_append, String.toList_ofList]
    rw [dropped, undotted_iff]
    constructor
    · intro named
      exact .inl ⟨String.ofList chars, rfl, named⟩
    · rintro (⟨front, spelled, named⟩ | ⟨plain, -⟩)
      · rwa [(String.append_left_inj _).mp spelled]
      · exact absurd ⟨chars, split⟩ plain
  · rw [withoutWildcard_eq_self_iff.mpr wildcard, undotted_iff]
    constructor
    · intro named
      exact .inr ⟨wildcard, named⟩
    · rintro (⟨front, rfl, -⟩ | ⟨-, named⟩)
      · exact absurd ⟨front.toList, by simp⟩ wildcard
      · exact named

theorem namesPackage_iff {entry package : String} (free : IsUnseparated entry) :
    NamesPackage entry package ↔ packageOfEntry? entry = some package := by
  rw [packageOfEntry?_eq_some_iff free]
  constructor
  · rintro ⟨unlabelled, filled, kept⟩
    exact ⟨unlabelled, filled, kept_iff.mpr kept⟩
  · rintro ⟨unlabelled, filled, kept⟩
    exact ⟨unlabelled, filled, kept_iff.mp kept⟩

theorem undotted_undotted (text : String) : undotted (undotted text) = undotted text := by
  rw [undotted, undotted, String.toList_ofList, List.rdropWhile_idempotent]

theorem NamesPackage.undotted_eq {entry package : String} (names : NamesPackage entry package) :
    undotted package = package := by
  rcases names.kept with ⟨front, -, rfl⟩ | ⟨-, rfl⟩
  · exact undotted_undotted front
  · exact undotted_undotted entry

namespace PackageSet

/-- Only the non-empty packages that entries name are stored, so no class is matched for nothing. -/
theorem covers_ofRaws_iff {raws : List String} {name : ClassName} :
    (ofRaws raws).covers name = true ↔
      ∃ raw ∈ raws, ∃ entry ∈ rawEntries raw, ∃ package,
        NamesPackage entry package ∧ name.IsBelow package := by
  rw [covers, List.any_eq_true]
  constructor
  · rintro ⟨package, stored, covered⟩
    obtain ⟨raw, given, entry, listed, named⟩ := mem_ofRaws.mp stored
    have names := (namesPackage_iff (isUnseparated_of_mem_rawEntries listed)).mpr named
    rw [ClassName.isInPackage_iff, names.undotted_eq, or_iff_right names.filled] at covered
    exact ⟨raw, given, entry, listed, package, names, covered⟩
  · rintro ⟨raw, given, entry, listed, package, names, below⟩
    have named := (namesPackage_iff (isUnseparated_of_mem_rawEntries listed)).mp names
    refine ⟨package, mem_ofRaws.mpr ⟨raw, given, entry, listed, named⟩, ?_⟩
    rw [ClassName.isInPackage_iff, names.undotted_eq]
    exact .inr below

/-- A class is in a package, less the dots at its end, when its segments go on after those of the
package; and, by texts, when its own package is that package or goes on after it and a dot.  Raw
lists match just the classes below the packages that their entries name, and none that all of these
miss. -/
theorem covers_by_segments (name : ClassName) :
    (∀ package, name.isInPackage package = true ↔
        undotted package = "" ∨ name.IsBelow (undotted package)) ∧
      (∀ package, undotted package ≠ "" →
        (name.isInPackage package = true ↔ name.package = undotted package ∨
          ∃ more, name.package = undotted package ++ "." ++ more)) ∧
      (∀ raws, (ofRaws raws).covers name = true ↔
        ∃ raw ∈ raws, ∃ entry ∈ rawEntries raw, ∃ package,
          NamesPackage entry package ∧ name.IsBelow package) ∧
      ∀ raws, (∀ raw ∈ raws, ∀ entry ∈ rawEntries raw, ∀ package, NamesPackage entry package →
          ClassName.Misses package name) → (ofRaws raws).covers name = false := by
  refine ⟨fun _ => ClassName.isInPackage_iff, ?_, fun _ => covers_ofRaws_iff, ?_⟩
  · intro package filled
    rw [ClassName.isInPackage_iff, or_iff_right filled, ClassName.isBelow_iff_package filled]
  · intro raws missed
    refine Bool.eq_false_of_not_eq_true fun covered => ?_
    obtain ⟨raw, given, entry, listed, package, names, below⟩ := covers_ofRaws_iff.mp covered
    exact (missed raw given entry listed package names).not_isBelow below

/-- A class nested in another one. -/
def orderLine : ClassName := ⟨["com", "acme", "Order$Line"], by decide, by decide⟩

/-- A nested class is in its package, but not in one of a shorter name or of the outer class. -/
theorem covers_by_segments_orderLine :
    orderLine.isInPackage "com.acme.." = true ∧
      (ofRaws ["com.acm;com.acme.Order.*"]).covers orderLine = false := by
  obtain ⟨-, packaged, -, missed⟩ := covers_by_segments orderLine
  have entries : rawEntries "com.acm;com.acme.Order.*" = ["com.acm", "com.acme.Order.*"] := by
    decide
  refine ⟨(packaged "com.acme.." (by decide)).mpr (.inl (by decide)), missed _ ?_⟩
  intro raw given entry listed package names
  obtain rfl := List.mem_singleton.mp given
  have named := (namesPackage_iff (isUnseparated_of_mem_rawEntries listed)).mp names
  rw [entries] at listed
  rcases List.mem_pair.mp listed with rfl | rfl
  · obtain rfl : "com.acm" = package := Option.some.inj named
    have split : Text.pieces '.' "com.acm" = ["com"] ++ "acm" :: [] := by decide
    have apart : orderLine.segments = ["com"] ++ "acme" :: ["Order$Line"] := rfl
    exact .sibling split apart (by decide)
  · obtain rfl : "com.acme.Order" = package := Option.some.inj named
    have outer : orderLine.dotted = "com.acme.Order" ++ String.singleton nestedMark ++ "Line" := by
      decide
    exact .nested outer

end PackageSet
end ClassEnhancement
