import ClassEnhancement.Proofs.FileTree.Parent
import ClassEnhancement.Proofs.FileTree.Shape
import ClassEnhancement.Proofs.FileTree.Writing

/-!
# Canonical paths

In a tree whose working directory exists, paths lead to locations of plain names below directories.
The absolute spelling of such a location leads back to it, and to no other place.
-/

namespace ClassEnhancement
namespace FileTree

/-- A location of plain names with directories all the way down to it. -/
structure IsReachable (tree : FileTree) (location : Location) : Prop where
  /-- Names stand for themselves. -/
  plain : ∀ name ∈ location, FilePath.IsPlain name
  /-- There is a directory above every name. -/
  above : ∀ {front back : Location} {name : String}, location = front ++ name :: back →
    tree.lookup? front = some .directory

/-- A tree in which relative paths start at a location that can be reached. -/
def IsGrounded (tree : FileTree) : Prop := tree.IsReachable tree.workingDirectory

/-- What a step of a path can be: a separator is no part of it. -/
def IsStep (step : String) : Prop := step ≠ "" ∧ '/' ∉ step.toList

/-- Where steps that make progress have come to can be reached. -/
def Progress.IsReachable (tree : FileTree) : Progress → Prop
  | .arrived (.present location) => tree.IsReachable location
  | .arrived (.vacant _ _) => True
  | .detour location steps => tree.IsReachable location ∧ ∀ step ∈ steps, IsStep step

variable {tree after : FileTree} {location : Location} {path : FilePath} {links : Nat}
  {steps : List String} {progress : Progress}

/-! ## Reachable locations -/

theorem isReachable_root (tree : FileTree) : tree.IsReachable [] :=
  ⟨nofun, fun split => by simp at split⟩

theorem IsReachable.dropLast (reachable : tree.IsReachable location) :
    tree.IsReachable location.dropLast := by
  refine ⟨fun name member => reachable.plain name (List.mem_of_mem_dropLast member), ?_⟩
  intro front back name split
  rcases List.eq_nil_or_concat location with rfl | ⟨others, last, rfl⟩
  · simp at split
  · rw [List.concat_eq_append] at reachable split
    rw [List.dropLast_concat] at split
    subst split
    exact reachable.above (List.append_assoc front (name :: back) [last])

theorem IsReachable.child (reachable : tree.IsReachable location)
    (directory : tree.lookup? location = some .directory) {name : String}
    (plain : FilePath.IsPlain name) : tree.IsReachable (location ++ [name]) := by
  constructor
  · intro other member
    rcases List.mem_append.mp member with early | last
    · exact reachable.plain other early
    · obtain rfl := List.mem_singleton.mp last
      exact plain
  · intro front back other split
    rcases List.eq_nil_or_concat back with rfl | ⟨others, last, rfl⟩
    · obtain ⟨rfl, -⟩ := List.append_inj' split rfl
      exact directory
    · rw [List.concat_eq_append, ← List.cons_append, ← List.append_assoc] at split
      obtain ⟨split, -⟩ := List.append_inj' split rfl
      exact reachable.above split

theorem isReachable_origin (reachable : tree.IsReachable location) (path : FilePath) :
    tree.IsReachable (origin location path) := by
  rw [origin]
  split
  · exact isReachable_root tree
  · exact reachable

theorem isStep_of_mem_steps {step : String} (listed : step ∈ FileTree.steps path) : IsStep step := by
  obtain ⟨rest, split, current⟩ := steps_eq path
  rw [split] at listed
  rcases List.mem_append.mp listed with named | last
  · obtain ⟨piece, some_text⟩ := List.mem_filter.mp named
    exact ⟨by simpa using some_text, Text.free_of_mem_pieces piece⟩
  · rw [current step last]
    exact ⟨by decide, by decide⟩

theorem Course.isReachable (course : tree.Course location steps progress)
    (reachable : tree.IsReachable location) (clean : ∀ step ∈ steps, IsStep step) :
    progress.IsReachable tree := by
  induction course with
  | arrive => exact reachable
  | stay _ _ hypothesis =>
      exact hypothesis reachable fun step member => clean step (List.mem_cons_of_mem _ member)
  | leave _ _ hypothesis =>
      exact hypothesis reachable.dropLast fun step member =>
        clean step (List.mem_cons_of_mem _ member)
  | enter directory named _ _ _ hypothesis =>
      obtain ⟨some_text, unseparated⟩ := clean _ List.mem_cons_self
      exact hypothesis (reachable.child directory ⟨some_text, named, unseparated⟩)
        fun step member => clean step (List.mem_cons_of_mem _ member)
  | divert _ _ _ rest =>
      refine ⟨isReachable_origin reachable _, fun step member => ?_⟩
      rcases List.mem_append.mp member with early | late
      · exact isStep_of_mem_steps early
      · exact clean step (List.mem_cons_of_mem _ late)
  | miss => trivial

theorem Journey.isReachable {target : Location}
    (journey : tree.Journey links location steps (.present target))
    (reachable : tree.IsReachable location) (clean : ∀ step ∈ steps, IsStep step) :
    tree.IsReachable target := by
  generalize reached : Destination.present target = destination at journey
  induction journey with
  | arrive course =>
      subst reached
      exact course.isReachable reachable clean
  | detour course _ hypothesis =>
      obtain ⟨onward, clean_onward⟩ := course.isReachable reachable clean
      exact hypothesis onward clean_onward reached

/-- Where a path leads can be reached. -/
theorem isReachable_of_locate (grounded : tree.IsGrounded)
    (located : tree.locate path = .ok location) : tree.IsReachable location :=
  (resolve_eq_ok_iff.mp (locate_eq_ok_iff.mp located)).2.isReachable
    (isReachable_origin grounded path) fun _ => isStep_of_mem_steps

/-! ## Directories that stay -/

theorem IsReachable.of_directories (reachable : tree.IsReachable location)
    (stay : ∀ other, tree.lookup? other = some .directory → after.lookup? other = some .directory) :
    after.IsReachable location :=
  ⟨reachable.plain, fun split => stay _ (reachable.above split)⟩

theorem Extends.isGrounded (grown : Extends tree after) (grounded : tree.IsGrounded) :
    after.IsGrounded := by
  rw [IsGrounded, ← grown.workingDirectory]
  exact grounded.of_directories fun other => grown.lookup other .directory

theorem SameShape.isGrounded (same : SameShape tree after) (grounded : tree.IsGrounded) :
    after.IsGrounded := by
  rw [IsGrounded, ← same.workingDirectory]
  exact grounded.of_directories fun other => same.lookup_directory

theorem isGrounded_of_write {content : Bytes} (written : tree.write path content = .ok after)
    (grounded : tree.IsGrounded) : after.IsGrounded := by
  obtain ⟨target, reached, rfl⟩ := write_eq written
  exact grounded.of_directories fun other =>
    lookup?_put_directory (hits_of_target reached).1 content

/-! ## Absolute spellings -/

theorem pathOf_eq_join (some_name : location ≠ [])
    (plain : ∀ name ∈ location, FilePath.IsPlain name) :
    pathOf location = (⟨"/"⟩ : FilePath).join (.ofNames location) := by
  have separated : "/".toList.getLast? = some '/' := by decide
  rw [FilePath.join, FilePath.ofNames_isAbsolute some_name plain, if_neg Bool.false_ne_true,
    if_pos (.inr separated)]
  rfl

/-- Locations of plain names below the root are spelled differently. -/
theorem eq_of_pathOf_eq {other : Location} (some_name : location ≠ [])
    (plain : ∀ name ∈ location, FilePath.IsPlain name) (some_other : other ≠ [])
    (plain_other : ∀ name ∈ other, FilePath.IsPlain name) (same : pathOf location = pathOf other) :
    location = other := by
  have texts : (FilePath.ofNames location).text = (FilePath.ofNames other).text := by
    simpa [pathOf, FilePath.ofNames] using same
  rw [← FilePath.pieces_ofNames some_name plain, texts,
    FilePath.pieces_ofNames some_other plain_other]

/-- The names of a location that can be reached lead to its entry, unless it is a link. -/
theorem IsReachable.course {entry : Entry} (reachable : tree.IsReachable location)
    (found : tree.lookup? location = some entry) (unlinked : ∀ target, entry ≠ .link target)
    {front back : Location} (split : location = front ++ back) :
    tree.Course front back (.arrived (.present location)) := by
  induction back generalizing front with
  | nil =>
      rw [List.append_nil] at split
      subst split
      exact .arrive _
  | cons name rest hypothesis =>
      have directory := reachable.above split
      have named := (reachable.plain name (by simp [split])).named
      have next_split : location = (front ++ [name]) ++ rest := by simp [split]
      have onward := hypothesis next_split
      by_cases last : rest = []
      · subst last
        subst split
        exact .enter directory named found unlinked onward
      · obtain ⟨next, others, rfl⟩ := List.exists_cons_of_ne_nil last
        have inner := reachable.above next_split
        exact .enter directory named inner nofun onward

/-- The absolute spelling of where a path leads to a file leads to no other place. -/
theorem location_of_pathOf (grounded : tree.IsGrounded) {content : Bytes} {other : Location}
    (located : tree.locate path = .ok location)
    (found : tree.lookup? location = some (.file content))
    (absolute : tree.locate (pathOf location) = .ok other) : other = location := by
  have some_name : location ≠ [] := by
    rintro rfl
    cases found
  have reachable := isReachable_of_locate grounded located
  have course := reachable.course found nofun (List.nil_append location).symm
  rw [pathOf_eq_join some_name reachable.plain, locate_join_iff _ some_name reachable.plain,
    arrives_join_iff _ some_name reachable.plain] at absolute
  cases absolute.2.unique (.arrive course)
  rfl

end FileTree
end ClassEnhancement
