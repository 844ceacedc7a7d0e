import ClassEnhancement.Enhance.Resolver
import ClassEnhancement.Proofs.FileTree.Below
import ClassEnhancement.Proofs.OrderedMap.Insertion
import ClassEnhancement.Source.Scan

/-!
# One class, one key

A class has a path below a root and a spelling for class loaders, and either leads to the key of
the class in a source index: cutting the path below the root and its extension, reading the slash
spelling, and replacing characters come to the same.
-/

namespace ClassEnhancement
namespace ClassName

variable (name : ClassName)

/-! ## Characters of names -/

theorem isNameChar_of_mem {segment : String} (valid : isSegment segment = true) {c : Char}
    (member : c ∈ segment.toList) : isNameChar c = true := by
  rw [isSegment, Bool.and_eq_true, List.all_eq_true] at valid
  exact valid.2 c member

theorem notMem_of_isSegment {segment : String} (valid : isSegment segment = true) {c : Char}
    (foreign : isNameChar c = false) : c ∉ segment.toList := by
  intro member
  rw [isNameChar_of_mem valid member] at foreign
  cases foreign

theorem nonempty_of_isSegment {segment : String} (valid : isSegment segment = true) :
    segment ≠ "" := by
  rintro rfl
  cases valid

theorem isNameChar_dot : isNameChar '.' = false := by decide

theorem isNameChar_slash : isNameChar '/' = false := by decide

theorem isNameChar_hyphen : isNameChar '-' = false := by decide

theorem plain_of_isSegment {segment : String} (valid : isSegment segment = true) :
    FilePath.IsPlain segment where
  nonempty := nonempty_of_isSegment valid
  named := by
    constructor
    · rintro rfl
      exact notMem_of_isSegment valid isNameChar_dot (by decide)
    · rintro rfl
      exact notMem_of_isSegment valid isNameChar_dot (by decide)
  unseparated := notMem_of_isSegment valid isNameChar_slash

theorem isSegment_simpleName : isSegment name.simpleName = true :=
  name.valid _ (List.getLast_mem name.nonempty)

theorem segments_eq : name.segments = name.segments.dropLast ++ [name.simpleName] :=
  (List.dropLast_append_getLast name.nonempty).symm

/-! ## Names of the class file -/

/-- The packages and the name of the class file. -/
def fileNames : List String := name.segments.dropLast ++ [name.simpleName ++ classEnding]

theorem fileNames_ne_nil : name.fileNames ≠ [] := by simp [fileNames]

theorem intercalate_concat (separator last ending : String) (front : List String) :
    separator.intercalate (front ++ [last ++ ending]) =
      separator.intercalate (front ++ [last]) ++ ending := by
  by_cases alone : front = []
  · simp [alone]
  · rw [String.intercalate_append_of_ne_nil alone (List.cons_ne_nil _ _),
      String.intercalate_append_of_ne_nil alone (List.cons_ne_nil _ _), String.intercalate_singleton,
      String.intercalate_singleton]
    simp only [String.append_assoc]

theorem classFile_eq : name.classFile = .ofNames name.fileNames := by
  rw [classFile, FilePath.ofNames, fileNames, intercalate_concat, ← name.segments_eq, slashed]

theorem append_classEnding_ne (stem : String) {text : String} (absent : 'c' ∉ text.toList) :
    stem ++ classEnding ≠ text := by
  rintro rfl
  refine absent ?_
  rw [String.toList_append]
  exact List.mem_append_right _ (by decide)

theorem plain_fileNames : ∀ other ∈ name.fileNames, FilePath.IsPlain other := by
  have simple := plain_of_isSegment name.isSegment_simpleName
  intro other member
  rcases List.mem_append.mp member with package | last
  · exact plain_of_isSegment (name.valid other (List.dropLast_subset _ package))
  · obtain rfl := List.mem_singleton.mp last
    refine ⟨append_classEnding_ne _ (by decide), ⟨append_classEnding_ne _ (by decide),
      append_classEnding_ne _ (by decide)⟩, ?_⟩
    rw [String.toList_append, List.mem_append, not_or]
    exact ⟨simple.unseparated, by decide⟩

/-! ## Spellings of names -/

theorem notMem_slashed {c : Char} (foreign : isNameChar c = false) (different : c ≠ '/') :
    c ∉ name.slashed.toList := by
  intro member
  rcases Text.mem_intercalate member with between | ⟨segment, listed, inside⟩
  · exact different (by simpa using between)
  · exact notMem_of_isSegment (name.valid segment listed) foreign inside

theorem dotted_of_slashed : Text.replaceChar '/' '.' name.slashed = name.dotted :=
  Text.replaceChar_intercalate '.' fun segment listed =>
    notMem_of_isSegment (name.valid segment listed) isNameChar_slash

theorem pieces_dotted : Text.pieces '.' name.dotted = name.segments :=
  Text.pieces_intercalate name.nonempty fun segment listed =>
    notMem_of_isSegment (name.valid segment listed) isNameChar_dot

theorem pieces_slashed : Text.pieces '/' name.slashed = name.segments :=
  Text.pieces_intercalate name.nonempty fun segment listed =>
    notMem_of_isSegment (name.valid segment listed) isNameChar_slash

theorem eq_of_segments {left right : ClassName} (same : left.segments = right.segments) :
    left = right := by
  obtain ⟨segments, nonempty, valid⟩ := left
  obtain rfl : segments = right.segments := same
  rfl

theorem dotted_inj {left right : ClassName} (same : left.dotted = right.dotted) : left = right := by
  refine eq_of_segments ?_
  rw [← left.pieces_dotted, same, right.pieces_dotted]

theorem withoutClassEnding_of_undotted {text : String} (undotted : '.' ∉ text.toList) :
    withoutClassEnding text = text := by
  have unended : Text.dropEnding? classEnding.toList text.toList = none := by
    rw [Text.dropEnding?, if_neg]
    intro ended
    exact undotted ((List.isSuffixOf_iff_suffix.mp ended).subset (by decide))
  rw [withoutClassEnding, unended]

theorem withoutClassEnding_slashed : withoutClassEnding name.slashed = name.slashed :=
  withoutClassEnding_of_undotted (name.notMem_slashed isNameChar_dot (by decide))

theorem ofSlashed_slashed : ofSlashed name.slashed = .ok name := by
  rw [ofSlashed, withoutClassEnding_slashed, pieces_slashed, ofSegments_segments]

end ClassName

/-! ## What a class loader asks for -/

namespace Resolution

theorem dottedOf_slashed (name : ClassName) : dottedOf name.slashed = name.dotted :=
  name.dotted_of_slashed

theorem indexKeyOf_slashed (name : ClassName) : indexKeyOf name.slashed = name.indexKey := by
  rw [indexKeyOf, name.dotted_of_slashed, ClassName.indexKey]

theorem relativeFileOf_slashed (name : ClassName) : relativeFileOf name.slashed = name.classFile := by
  rw [relativeFileOf, name.ofSlashed_slashed]

end Resolution

/-- A compiled set is asked for classes by their spelling. -/
theorem CompiledSet.fileOf?_dotted (classes : CompiledSet) (name : ClassName) :
    classes.fileOf? name.dotted = classes.find? name := by
  rw [fileOf?, OrderedMap.find?]
  induction classes.entries with
  | nil => rfl
  | cons entry rest hypothesis =>
      obtain ⟨stored, file⟩ := entry
      by_cases same : name = stored
      · simp [same]
      · have different : (stored.dotted == name.dotted) = false := by
          simpa using fun spelling => same (ClassName.dotted_inj spelling).symm
        have unequal : (name == stored) = false := by simpa using same
        simp only [List.find?_cons, different, List.lookup_cons, unequal, hypothesis]

theorem CompiledSet.fileOf?_of_stale {classes : CompiledSet} {name : ClassName}
    (stale : name ∉ classes.keys) : classes.fileOf? name.dotted = none := by
  rw [fileOf?_dotted, OrderedMap.find?_eq_none_iff]
  exact stale

/-! ## What a scan declares -/

namespace FilePath

theorem components_ofNames {names : List String} (some_name : names ≠ [])
    (plain : ∀ name ∈ names, IsPlain name) : (ofNames names).components = names.map .name := by
  have joined := components_join ⟨""⟩ some_name plain
  have alone : (⟨""⟩ : FilePath).join (ofNames names) = ofNames names := by
    simp [join, ofNames_isAbsolute some_name plain]
  have nothing : (⟨""⟩ : FilePath).components = [] := by decide
  rwa [alone, nothing, List.nil_append] at joined

theorem ofComponents_names (names : List String) :
    ofComponents (names.map .name) = ofNames names := by
  have texts : (names.map Component.name).map Component.text = names := by
    rw [List.map_map]
    exact List.map_id names
  rw [ofComponents, texts, ofNames]

theorem dropIdle_append {front : List String} {last : String} (plain : IsPlain last) :
    dropIdle (front ++ [last]) = front ++ [last] := by
  have kept : isIdlePiece last = false := by
    simp [isIdlePiece, plain.nonempty, plain.named.1]
  simp [dropIdle, kept]

/-- Names that are no idle pieces are the texts of the components that they spell. -/
theorem texts_ofNames {names : List String} (some_name : names ≠ [])
    (free : ∀ name ∈ names, '/' ∉ name.toList)
    (kept : ∀ name ∈ names, isIdlePiece name = false) :
    (ofNames names).components.map Component.text = names := by
  have pieces : Text.pieces '/' (ofNames names).text = names :=
    Text.pieces_intercalate some_name free
  have relative : (ofNames names).isAbsolute = false := by
    rw [isAbsolute, decide_eq_false_iff_not]
    intro absolute
    obtain ⟨rest, split⟩ := List.head?_eq_some_iff.mp absolute
    rw [← List.nil_append ('/' :: rest)] at split
    have empty : "" ∈ names := by
      rw [← pieces, pieces_of_toList split]
      exact List.mem_append_left _ (by decide)
    exact absurd (kept "" empty) (by decide)
  have unmarked : names.head? ≠ some "." := fun marked =>
    absurd (kept "." (List.mem_of_head? marked)) (by decide)
  have texts : ∀ name ∈ names, (componentOfPiece? name).map Component.text = some name := by
    intro name member
    obtain ⟨nonempty, not_current⟩ : name ≠ "" ∧ name ≠ "." := by
      simpa [isIdlePiece] using kept name member
    by_cases parent : name = ".."
    · simp [parent, componentOfPiece?, Component.text]
    · simp [componentOfPiece?, nonempty, not_current, parent, Component.text]
  rw [components]
  simp only [pieces, relative, unmarked, Bool.false_eq_true, if_false, List.nil_append,
    List.map_filterMap]
  rw [List.filterMap_congr texts, List.filterMap_some]

/-! ### Names without their extension -/

theorem stemOf_isPrefix (name : String) : (stemOf name).toList <+: name.toList := by
  rw [stemOf, splitExtension]
  split
  · next before after cut =>
      split
      · exact List.prefix_rfl
      · rw [Text.eq_append_of_splitLast? cut]
        simp
  · exact List.prefix_rfl

theorem stemOf_ne_empty {name : String} (nonempty : name ≠ "") : stemOf name ≠ "" := by
  rw [stemOf, splitExtension]
  split
  · split
    · exact nonempty
    · next filled => simpa using filled
  · exact nonempty

theorem slash_notMem_bareName {name : String} (plain : IsPlain name) :
    '/' ∉ (bareName name).toList := by
  rw [bareName]
  split
  · decide
  · exact fun member => plain.unseparated ((stemOf_isPrefix name).subset member)

theorem bareName_kept {name : String} (plain : IsPlain name) :
    isIdlePiece (bareName name) = false := by
  rw [bareName]
  split
  · decide
  · next named => simp [isIdlePiece, stemOf_ne_empty plain.nonempty, named]

theorem withoutExtension_ofNames {front : List String} {last : String}
    (plain : ∀ name ∈ front ++ [last], IsPlain name) :
    (ofNames (front ++ [last])).withoutExtension = ofNames (front ++ [bareName last]) := by
  have some_name : front ++ [last] ≠ [] := by simp
  have last_name : (ofNames (front ++ [last])).fileName? = some last := by
    rw [fileName?, components_ofNames some_name plain]
    simp [Component.name?]
  rw [withoutExtension, last_name]
  simp only [pieces_ofNames some_name plain, dropIdle_append (plain last (by simp)),
    List.dropLast_concat]
  rw [ofNames]

/-- Only the last name changes when the extension of a path is cut off. -/
theorem texts_withoutExtension {front : List String} {last : String}
    (plain : ∀ name ∈ front ++ [last], IsPlain name) :
    (ofNames (front ++ [last])).withoutExtension.components.map Component.text =
      front ++ [bareName last] := by
  have plain_last := plain last (by simp)
  have plain_front : ∀ name ∈ front, IsPlain name := fun name member =>
    plain name (List.mem_append_left _ member)
  rw [withoutExtension_ofNames plain]
  refine texts_ofNames (by simp) (List.forall_mem_append.mpr ⟨?_, ?_⟩)
    (List.forall_mem_append.mpr ⟨?_, ?_⟩)
  · exact fun name member => (plain_front name member).unseparated
  · simpa using slash_notMem_bareName plain_last
  · intro name member
    simp [isIdlePiece, (plain_front name member).nonempty, (plain_front name member).named.1]
  · simpa using bareName_kept plain_last

end FilePath

namespace ClassName

theorem splitExtension_classEnding {stem : String} (nonempty : stem ≠ "") :
    FilePath.splitExtension (stem ++ classEnding) = (stem, some "class") := by
  have ending : classEnding.toList = '.' :: "class".toList := by decide
  have cut : Text.splitLast? '.' (stem ++ classEnding).toList =
      some (stem.toList, "class".toList) := by
    rw [String.toList_append, ending]
    exact Text.splitLast?_append (by decide)
  have some_text : stem.toList.isEmpty = false := by simpa using nonempty
  rw [FilePath.splitExtension, cut]
  simp [some_text]

variable (name : ClassName)

theorem fileName?_join (root : FilePath) :
    (root.join name.classFile).fileName? = some (name.simpleName ++ classEnding) := by
  rw [name.classFile_eq, FilePath.fileName?,
    FilePath.components_join root name.fileNames_ne_nil name.plain_fileNames]
  simp [fileNames, Component.name?]

theorem extension?_join (root : FilePath) :
    (root.join name.classFile).extension? = some SourceIndex.classExtension := by
  rw [FilePath.extension?, name.fileName?_join root, Option.bind_some,
    splitExtension_classEnding (nonempty_of_isSegment name.isSegment_simpleName)]
  rfl

theorem bareName_classEnding :
    FilePath.bareName (name.simpleName ++ classEnding) = name.simpleName := by
  have plain := plain_of_isSegment name.isSegment_simpleName
  rw [FilePath.bareName, FilePath.stemOf, splitExtension_classEnding plain.nonempty,
    if_neg plain.named.1]

theorem isDescriptor_simpleName : SourceIndex.isDescriptor name.simpleName = false := by
  have unhyphened : '-' ∉ name.simpleName.toList :=
    notMem_of_isSegment name.isSegment_simpleName isNameChar_hyphen
  rw [SourceIndex.isDescriptor, Bool.or_eq_false_iff, beq_eq_false_iff_ne, beq_eq_false_iff_ne]
  constructor
  · intro same
    exact unhyphened (same ▸ by decide)
  · intro same
    exact unhyphened (same ▸ by decide)

end ClassName

namespace SourceIndex

/-- Names below a root spell the key that a scan of the root derives, the last one cut before its
extension. -/
theorem declaredKey?_ofNames (root : FilePath) {front : List String} {last : String}
    (plain : ∀ name ∈ front ++ [last], FilePath.IsPlain name) :
    declaredKey? root (root.join (.ofNames (front ++ [last]))) =
      if isDescriptor (FilePath.bareName last) then none
      else (ClassName.ofSlashed ("/".intercalate (front ++ [FilePath.bareName last]))).toOption.map
        ClassName.indexKey := by
  have joined := FilePath.components_join root (List.append_ne_nil_of_right_ne_nil front
    (List.cons_ne_nil last [])) plain
  have begins : (root.join (.ofNames (front ++ [last]))).StartsWith root := ⟨_, joined.symm⟩
  have below : (root.join (.ofNames (front ++ [last]))).componentsBelow? root =
      some ((front ++ [last]).map .name) := by
    rw [FilePath.componentsBelow?, if_pos begins, joined, List.drop_left]
  simp only [declaredKey?, below, Option.bind_eq_bind, Option.bind_some, FilePath.ofComponents_names,
    FilePath.texts_withoutExtension plain, List.getLast?_concat]

/-- A scan declares a class file below its root by the key of the class. -/
theorem declaredKey?_join (root : FilePath) (name : ClassName) :
    declaredKey? root (root.join name.classFile) = some name.indexKey := by
  have read : ClassName.ofSlashed ("/".intercalate name.segments) = .ok name :=
    name.ofSlashed_slashed
  rw [name.classFile_eq, ClassName.fileNames, declaredKey?_ofNames root name.plain_fileNames,
    name.bareName_classEnding, name.isDescriptor_simpleName, ← name.segments_eq, read]
  rfl

end SourceIndex
end ClassEnhancement
