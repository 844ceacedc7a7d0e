import ClassEnhancement.Proofs.Source.Spelling

/-!
# Faithful spellings

A class name is read back from each of its spellings: the dotted one, the slash spelling and the
path of the class file.  Nothing else is read as that name, and no spelling is shared by two names.
-/

namespace ClassEnhancement
namespace ClassName

variable {name : ClassName} {text : String}

/-! ## What is read as a name -/

theorem ofSegments_eq_ok_iff {segments : List String} :
    ofSegments segments = .ok name ↔ segments = name.segments := by
  constructor
  · intro read
    exact (segments_of_ofSegments read).symm
  · rintro rfl
    exact ofSegments_segments name

/-- Segments are the pieces of a text just where the text is the segments joined. -/
theorem pieces_eq_segments_iff {separator : Char} (foreign : isNameChar separator = false) :
    Text.pieces separator text = name.segments ↔
      text = (String.singleton separator).intercalate name.segments := by
  constructor
  · intro split
    rw [← split, Text.intercalate_pieces]
  · rintro rfl
    exact Text.pieces_intercalate name.nonempty fun segment listed =>
      notMem_of_isSegment (name.valid segment listed) foreign

theorem ofDotted_eq_ok_iff : ofDotted text = .ok name ↔ text = name.dotted := by
  rw [ofDotted, ofSegments_eq_ok_iff]
  exact pieces_eq_segments_iff isNameChar_dot

/-- A text without dots is left by itself and by itself with the ending of class files. -/
theorem withoutClassEnding_eq_iff {stem : String} (undotted : '.' ∉ stem.toList) :
    withoutClassEnding text = stem ↔ text = stem ∨ text = stem ++ classEnding := by
  constructor
  · rintro rfl
    rw [withoutClassEnding]
    split
    · next rest ended =>
        right
        rw [← String.toList_inj, Text.eq_append_of_dropEnding? ended]
        simp
    · exact .inl rfl
  · rintro (rfl | rfl)
    · exact withoutClassEnding_of_undotted undotted
    · rw [withoutClassEnding, String.toList_append, Text.dropEnding?_append]
      exact String.ofList_toList

theorem ofSlashed_eq_ok_iff :
    ofSlashed text = .ok name ↔ text = name.slashed ∨ text = name.classFile.text := by
  rw [ofSlashed, ofSegments_eq_ok_iff, pieces_eq_segments_iff isNameChar_slash]
  exact withoutClassEnding_eq_iff (name.notMem_slashed isNameChar_dot (by decide))

/-! ## Package and simple name -/

theorem package_eq_empty_iff : name.package = "" ↔ name.segments.dropLast = [] := by
  constructor
  · intro unnamed
    by_contra packaged
    have listed : name.segments.dropLast = Text.pieces '.' name.package :=
      (Text.pieces_intercalate packaged fun segment member =>
        notMem_of_isSegment (name.valid segment (List.dropLast_subset _ member))
          isNameChar_dot).symm
    have empty : "" ∈ name.segments := by
      refine List.dropLast_subset _ ?_
      rw [listed, unnamed]
      decide
    exact nonempty_of_isSegment (name.valid "" empty) rfl
  · intro bare
    rw [package, bare]
    rfl

/-- Segments joined are the packages joined and then the simple name. -/
theorem intercalate_segments (separator : String) :
    separator.intercalate name.segments =
      if name.package = "" then name.simpleName
      else separator.intercalate name.segments.dropLast ++ separator ++ name.simpleName := by
  conv_lhs => rw [name.segments_eq]
  split
  · next unnamed =>
      rw [package_eq_empty_iff.mp unnamed, List.nil_append, String.intercalate_singleton]
  · next named =>
      rw [String.intercalate_append_of_ne_nil (mt package_eq_empty_iff.mpr named)
        (List.cons_ne_nil _ _), String.intercalate_singleton]

theorem dotted_eq_slashed (unnamed : name.package = "") : name.dotted = name.slashed := by
  rw [dotted, slashed, intercalate_segments, intercalate_segments, if_pos unnamed, if_pos unnamed]

theorem slash_mem_slashed_iff : '/' ∈ name.slashed.toList ↔ name.package ≠ "" := by
  rw [slashed, intercalate_segments]
  split
  · next unnamed =>
      have plain := notMem_of_isSegment name.isSegment_simpleName isNameChar_slash
      simp [unnamed, plain]
  · next named => simp [named]

theorem slash_mem_classFile_iff : '/' ∈ name.classFile.text.toList ↔ name.package ≠ "" := by
  have ending : '/' ∉ classEnding.toList := by decide
  rw [classFile, String.toList_append, List.mem_append, or_iff_left ending, slash_mem_slashed_iff]

theorem slash_notMem_dotted : '/' ∉ name.dotted.toList := by
  intro member
  rcases Text.mem_intercalate member with between | ⟨segment, listed, inside⟩
  · exact absurd between (by decide)
  · exact notMem_of_isSegment (name.valid segment listed) isNameChar_slash inside

/-- With a slash the path of the class file is a spelling too; without packages it has none. -/
theorem ofText_eq_ok_iff :
    ofText text = .ok name ↔
      text = name.dotted ∨ text = name.slashed ∨
        name.package ≠ "" ∧ text = name.classFile.text := by
  rw [ofText]
  split
  · next slash =>
      rw [ofSlashed_eq_ok_iff]
      constructor
      · rintro (rfl | rfl)
        · exact .inr (.inl rfl)
        · exact .inr (.inr ⟨slash_mem_classFile_iff.mp slash, rfl⟩)
      · rintro (rfl | same | ⟨-, same⟩)
        · exact absurd slash slash_notMem_dotted
        · exact .inl same
        · exact .inr same
  · next no_slash =>
      rw [ofDotted_eq_ok_iff]
      constructor
      · exact .inl
      · rintro (same | rfl | ⟨named, rfl⟩)
        · exact same
        · have unnamed := Decidable.not_not.mp (mt slash_mem_slashed_iff.mpr no_slash)
          exact (dotted_eq_slashed unnamed).symm
        · exact absurd (slash_mem_classFile_iff.mpr named) no_slash

/-! ## One name for each spelling -/

theorem slashed_injective : Function.Injective slashed := by
  intro left right same
  exact eq_of_segments (by rw [← left.pieces_slashed, same, right.pieces_slashed])

/-- Class files of different names are at different places, however their paths are spelled. -/
theorem components_classFile_injective :
    Function.Injective fun name : ClassName => name.classFile.components := by
  intro left right same
  have components_eq (name : ClassName) :
      name.classFile.components = name.fileNames.map .name := by
    rw [classFile_eq, FilePath.components_ofNames name.fileNames_ne_nil name.plain_fileNames]
  have names : left.fileNames = right.fileNames := by
    refine List.map_injective_iff.mpr (fun _ _ => Component.name.inj) ?_
    rw [← components_eq, ← components_eq]
    exact same
  obtain ⟨packages, files⟩ := List.append_inj' names rfl
  have simple : left.simpleName = right.simpleName :=
    (String.append_left_inj _).mp (List.singleton_inj.mp files)
  exact eq_of_segments (by rw [left.segments_eq, right.segments_eq, packages, simple])

/-- A name is read back from each of its spellings, and its packages and simple name make it up. -/
structure IsFaithful (name : ClassName) : Prop where
  slashed : ofSlashed name.slashed = .ok name
  classFile : ofSlashed name.classFile.text = .ok name
  dotted : ofDotted name.dotted = .ok name
  eitherSlashed : ofText name.slashed = .ok name
  eitherDotted : ofText name.dotted = .ok name
  rejoined : name.dotted =
    if name.package = "" then name.simpleName else name.package ++ "." ++ name.simpleName

theorem isFaithful (name : ClassName) : name.IsFaithful where
  slashed := ofSlashed_eq_ok_iff.mpr (.inl rfl)
  classFile := ofSlashed_eq_ok_iff.mpr (.inr rfl)
  dotted := ofDotted_eq_ok_iff.mpr rfl
  eitherSlashed := ofText_eq_ok_iff.mpr (.inr (.inl rfl))
  eitherDotted := ofText_eq_ok_iff.mpr (.inl rfl)
  rejoined := intercalate_segments "."

/-- Every name is faithful, no two names share a slash spelling or the place of a class file, and a
text that is accepted is one of the spellings of the name that it is read as. -/
theorem spells_faithfully :
    (∀ name : ClassName, name.IsFaithful) ∧
      Function.Injective slashed ∧
      Function.Injective (fun name : ClassName => name.classFile.components) ∧
      (∀ text name, ofSlashed text = .ok name ↔
        text = name.slashed ∨ text = name.classFile.text) ∧
      (∀ text name, ofDotted text = .ok name ↔ text = name.dotted) ∧
      ∀ text name, ofText text = .ok name ↔
        text = name.dotted ∨ text = name.slashed ∨
          name.package ≠ "" ∧ text = name.classFile.text :=
  ⟨isFaithful, slashed_injective, components_classFile_injective,
    fun _ _ => ofSlashed_eq_ok_iff, fun _ _ => ofDotted_eq_ok_iff, fun _ _ => ofText_eq_ok_iff⟩

end ClassName
end ClassEnhancement
