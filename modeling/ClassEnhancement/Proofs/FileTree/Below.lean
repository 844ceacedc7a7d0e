import ClassEnhancement.Proofs.FileTree.Course
import ClassEnhancement.Proofs.Text.Pieces
import Mathlib.Data.List.Basic

/-!
# Paths below a path

Plain names joined by separators spell a path below any other one, whatever the spelling of that
one is: they are its last components, its last steps, and it starts where the other one starts.
-/

namespace ClassEnhancement
namespace FilePath

/-- A name that stands for itself between separators. -/
structure IsPlain (name : String) : Prop where
  nonempty : name ≠ ""
  named : FileTree.IsName name
  unseparated : '/' ∉ name.toList

theorem isPlain_iff {name : String} :
    IsPlain name ↔ name ≠ "" ∧ (name ≠ "." ∧ name ≠ "..") ∧ '/' ∉ name.toList :=
  ⟨fun plain => ⟨plain.nonempty, plain.named, plain.unseparated⟩,
    fun ⟨nonempty, named, unseparated⟩ => ⟨nonempty, named, unseparated⟩⟩

instance (name : String) : Decidable (IsPlain name) := decidable_of_iff _ isPlain_iff.symm

/-- The relative path that names spell. -/
def ofNames (names : List String) : FilePath := ⟨"/".intercalate names⟩

/-- The pieces of a path that are not empty. -/
def names (path : FilePath) : List String := (Text.pieces '/' path.text).filter (· ≠ "")

variable {names : List String} {name next : String} {path : FilePath}

/-! ## Relative paths of plain names -/

theorem pieces_ofNames (some_name : names ≠ []) (plain : ∀ name ∈ names, IsPlain name) :
    Text.pieces '/' (ofNames names).text = names :=
  Text.pieces_intercalate some_name fun name member => (plain name member).unseparated

theorem pieces_of_toList {text : String} {front back : List Char}
    (split : text.toList = front ++ '/' :: back) :
    Text.pieces '/' text = Text.pieces '/' (String.ofList front) ++
      Text.pieces '/' (String.ofList back) := by
  rw [← Text.pieces_append, ← split, String.ofList_toList]

theorem ofNames_isAbsolute (some_name : names ≠ []) (plain : ∀ name ∈ names, IsPlain name) :
    (ofNames names).isAbsolute = false := by
  rw [isAbsolute, decide_eq_false_iff_not]
  intro absolute
  obtain ⟨rest, split⟩ := List.head?_eq_some_iff.mp absolute
  rw [← List.nil_append ('/' :: rest)] at split
  have found := pieces_ofNames some_name plain
  rw [pieces_of_toList split] at found
  have empty : "" ∈ names := by
    rw [← found]
    exact List.mem_append_left _ (by decide)
  exact (plain "" empty).nonempty rfl

theorem ofNames_getLast? (some_name : names ≠ []) (plain : ∀ name ∈ names, IsPlain name) :
    (ofNames names).text.toList.getLast? ≠ some '/' := by
  intro separated
  obtain ⟨front, split⟩ := List.getLast?_eq_some_iff.mp separated
  have found := pieces_ofNames some_name plain
  rw [pieces_of_toList split] at found
  have empty : "" ∈ names := by
    rw [← found]
    exact List.mem_append_right _ (by decide)
  exact (plain "" empty).nonempty rfl

theorem ofNames_text_ne (some_name : names ≠ []) (plain : ∀ name ∈ names, IsPlain name) :
    (ofNames names).text ≠ "" := by
  intro empty
  have found := pieces_ofNames some_name plain
  rw [empty] at found
  have listed : "" ∈ names := by
    rw [← found]
    decide
  exact (plain "" listed).nonempty rfl

/-! ## Joining -/

/-- How a relative path is joined to a path: alone, after the separator at the end of the path, or
after a separator of its own. -/
inductive Joins (path relative : FilePath) : FilePath → Prop
  | alone {joined : FilePath} (empty : path.text = "") (same : joined = relative) :
      Joins path relative joined
  | after {joined : FilePath} (base : List Char) (spelled : path.text.toList = base ++ ['/'])
      (split : joined.text.toList = base ++ '/' :: relative.text.toList) :
      Joins path relative joined
  | below {joined : FilePath} (some_text : path.text.toList ≠ [])
      (split : joined.text.toList = path.text.toList ++ '/' :: relative.text.toList) :
      Joins path relative joined

theorem joins_join (path : FilePath) {relative : FilePath} (free : relative.isAbsolute = false) :
    Joins path relative (path.join relative) := by
  rw [join, free]
  by_cases empty : path.text = ""
  · exact .alone empty (by simp [empty])
  by_cases separated : path.text.toList.getLast? = some '/'
  · obtain ⟨base, spelled⟩ := List.getLast?_eq_some_iff.mp separated
    exact .after base spelled (by simp [spelled])
  · exact .below (by simpa using empty) (by simp [empty, separated])

theorem pieces_toList (text : String) :
    Text.pieces '/' (String.ofList text.toList) = Text.pieces '/' text := by
  rw [String.ofList_toList]

theorem filter_names (plain : ∀ name ∈ names, IsPlain name) : names.filter (· ≠ "") = names := by
  refine List.filter_eq_self.mpr fun name member => ?_
  simpa using (plain name member).nonempty

theorem filterMap_names (plain : ∀ name ∈ names, IsPlain name) :
    names.filterMap componentOfPiece? = names.map .name := by
  rw [← List.filterMap_eq_map]
  refine List.filterMap_congr fun name member => ?_
  obtain ⟨nonempty, ⟨not_current, not_parent⟩, -⟩ := plain name member
  simp [componentOfPiece?, nonempty, not_current, not_parent]

theorem isAbsolute_join_of_relative (path : FilePath) {relative : FilePath}
    (free : relative.isAbsolute = false) : (path.join relative).isAbsolute = path.isAbsolute := by
  cases joins_join path free with
  | alone empty same =>
      rw [same, free, isAbsolute, empty]
      decide
  | after base spelled split =>
      rw [isAbsolute, isAbsolute, split, spelled]
      cases base <;> rfl
  | below some_text split =>
      rw [isAbsolute, isAbsolute, split, List.head?_append_of_ne_nil _ some_text]

/-- Joined to some text, a relative path adds the components of its pieces. -/
theorem components_join_of_text (path : FilePath) {relative : FilePath}
    (free : relative.isAbsolute = false) (some_text : path.text ≠ "") :
    (path.join relative).components =
      path.components ++ (Text.pieces '/' relative.text).filterMap componentOfPiece? := by
  rw [components, components, isAbsolute_join_of_relative path free]
  cases joins_join path free with
  | alone empty => exact absurd empty some_text
  | after base spelled split =>
      have nothing : (Text.pieces '/' (String.ofList [])).filterMap componentOfPiece? = [] := by
        decide
      simp only [pieces_of_toList split, pieces_of_toList spelled, pieces_toList,
        List.filterMap_append, nothing, List.append_nil, List.append_assoc,
        List.head?_append_of_ne_nil _ (Text.pieces_ne_nil _ _)]
  | below base split =>
      simp only [pieces_of_toList split, pieces_toList, List.filterMap_append, List.append_assoc,
        List.head?_append_of_ne_nil _ (Text.pieces_ne_nil _ _)]

section Join

variable (path : FilePath) (some_name : names ≠ []) (plain : ∀ name ∈ names, IsPlain name)

include some_name plain

theorem names_join : (path.join (ofNames names)).names = path.names ++ names := by
  have relative : (ofNames names).names = names := by
    rw [FilePath.names, pieces_ofNames some_name plain, filter_names plain]
  cases joins_join path (ofNames_isAbsolute some_name plain) with
  | alone empty same =>
      have nothing : path.names = [] := by
        rw [FilePath.names, empty]
        decide
      rw [same, relative, nothing, List.nil_append]
  | after base spelled split =>
      have nothing : (Text.pieces '/' (String.ofList [])).filter (· ≠ "") = [] := by decide
      rw [FilePath.names, FilePath.names, pieces_of_toList split, pieces_of_toList spelled,
        List.filter_append, List.filter_append, nothing, List.append_nil, pieces_toList,
        pieces_ofNames some_name plain, filter_names plain]
  | below _ split =>
      rw [FilePath.names, FilePath.names, pieces_of_toList split, List.filter_append,
        pieces_toList, pieces_toList, pieces_ofNames some_name plain, filter_names plain]

theorem isAbsolute_join : (path.join (ofNames names)).isAbsolute = path.isAbsolute :=
  isAbsolute_join_of_relative path (ofNames_isAbsolute some_name plain)

theorem origin_join (workingDirectory : Location) :
    FileTree.origin workingDirectory (path.join (ofNames names)) =
      FileTree.origin workingDirectory path := by
  rw [FileTree.origin, FileTree.origin, isAbsolute_join path some_name plain]

theorem getLast?_join : (path.join (ofNames names)).text.toList.getLast? ≠ some '/' := by
  have relative_end := ofNames_getLast? some_name plain
  have some_text : (ofNames names).text.toList ≠ [] := by
    simpa using ofNames_text_ne some_name plain
  cases joins_join path (ofNames_isAbsolute some_name plain) with
  | alone _ same =>
      rw [same]
      exact relative_end
  | after _ _ split | below _ split =>
      rw [split, List.getLast?_append_of_ne_nil _ (List.cons_ne_nil _ _), List.getLast?_cons]
      obtain ⟨last, found⟩ := Option.ne_none_iff_exists'.mp
        (mt List.getLast?_eq_none_iff.mp some_text)
      rw [found] at relative_end ⊢
      exact relative_end

theorem join_text_ne : (path.join (ofNames names)).text ≠ "" := by
  have relative_text := ofNames_text_ne some_name plain
  intro empty
  cases joins_join path (ofNames_isAbsolute some_name plain) with
  | alone _ same => exact relative_text (same ▸ empty)
  | after _ _ split | below _ split =>
      rw [empty] at split
      simp at split

theorem steps_join : FileTree.steps (path.join (ofNames names)) = path.names ++ names := by
  rw [FileTree.steps, if_neg (getLast?_join path some_name plain), ← FilePath.names,
    names_join path some_name plain]

theorem components_join :
    (path.join (ofNames names)).components = path.components ++ names.map .name := by
  have relative := pieces_ofNames some_name plain
  have free := ofNames_isAbsolute some_name plain
  by_cases empty : path.text = ""
  · have not_current : names.head? ≠ some "." := by
      intro first
      exact (plain "." (List.mem_of_head? first)).named.1 rfl
    obtain ⟨text⟩ := path
    obtain rfl : text = "" := empty
    have alone : (⟨""⟩ : FilePath).join (ofNames names) = ofNames names := by
      simp [join, free]
    have nothing : (⟨""⟩ : FilePath).components = [] := by decide
    rw [alone, nothing, components, free, relative, filterMap_names plain]
    simp [not_current]
  · rw [components_join_of_text path free empty, relative, filterMap_names plain]

end Join

theorem isUsable_of_join (path : FilePath) {relative : FilePath} (free : relative.isAbsolute = false)
    (some_text : path.text ≠ "") (usable : FileTree.IsUsable (path.join relative)) :
    FileTree.IsUsable path := by
  refine ⟨fun null => usable.1 ?_, some_text⟩
  cases joins_join path free with
  | alone empty => exact (some_text empty).elim
  | after base spelled split =>
      rw [split]
      rw [spelled] at null
      rcases List.mem_append.mp null with early | last
      · exact List.mem_append_left _ early
      · cases List.mem_singleton.mp last
  | below _ split =>
      rw [split]
      exact List.mem_append_left _ null

/-- Names below a path are reached one after another. -/
theorem join_cons (path : FilePath) (some_name : names ≠ [])
    (plain : ∀ other ∈ name :: names, IsPlain other) :
    path.join (ofNames (name :: names)) = (path.child name).join (ofNames names) := by
  obtain ⟨first, rest⟩ := List.forall_mem_cons.mp plain
  have alone : ∀ other ∈ [name], IsPlain other := by simpa using first
  have child_eq : path.child name = path.join (ofNames [name]) := by
    rw [child, ofNames, String.intercalate_singleton]
  have text_eq : (ofNames (name :: names)).text = name ++ "/" ++ (ofNames names).text := by
    obtain ⟨next, later, rfl⟩ := List.exists_cons_of_ne_nil some_name
    exact String.intercalate_cons_cons
  have child_end := getLast?_join path (List.cons_ne_nil name []) alone
  have child_text := join_text_ne path (List.cons_ne_nil name []) alone
  rw [← child_eq] at child_end child_text
  have open_end : ¬ ((path.child name).text = "" ∨
      (path.child name).text.toList.getLast? = some '/') := not_or.mpr ⟨child_text, child_end⟩
  have joined : (path.child name).join (ofNames names) =
      ⟨(path.child name).text ++ "/" ++ (ofNames names).text⟩ := by
    rw [join, ofNames_isAbsolute some_name rest, if_neg open_end]
    rfl
  have unseparated : (⟨name⟩ : FilePath).isAbsolute = false := by
    simpa [ofNames] using ofNames_isAbsolute (List.cons_ne_nil name []) alone
  rw [joined, join, ofNames_isAbsolute (List.cons_ne_nil _ _) plain, text_eq, child, join,
    unseparated]
  by_cases bare : path.text = "" ∨ path.text.toList.getLast? = some '/'
  · simp [bare, String.append_assoc]
  · simp [bare, String.append_assoc]

end FilePath
end ClassEnhancement
