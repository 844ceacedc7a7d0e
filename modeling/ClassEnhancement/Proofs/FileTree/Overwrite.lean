import ClassEnhancement.Proofs.FileTree.Course
import ClassEnhancement.Proofs.FileTree.Shape
import Mathlib.Data.List.Induction

/-!
# Overwriting files

Overwriting replaces the whole contents of the regular file that a path denotes, and changes
nothing else: no entry is created or removed, no other file changes, and every path leads where
it led before.  Writing to a path of a regular file is overwriting.
-/

namespace ClassEnhancement
namespace FileTree

/-! ## Paths that ask for a directory -/

/-- Steps that end in `.` arrive at a directory. -/
theorem directory_of_arrived {tree : FileTree} {location : Location} {front : List String}
    {destination : Destination}
    (arrived : tree.advance location (front ++ ["."]) = .ok (.arrived destination)) :
    ∃ found, destination = .present found ∧ tree.lookup? found = some .directory := by
  induction front generalizing location with
  | nil =>
      by_cases directory : tree.lookup? location = some .directory
      · simp only [List.nil_append, advance, directory] at arrived
        simp only [ne_eq, not_true_eq_false, if_false, if_true, Except.ok.injEq,
          Progress.arrived.injEq] at arrived
        exact ⟨location, arrived.symm, directory⟩
      · simp [advance, directory] at arrived
  | cons step front induction =>
      simp only [List.cons_append, advance] at arrived
      split at arrived
      · cases arrived
      · split at arrived
        · exact induction arrived
        · split at arrived
          · exact induction arrived
          · split at arrived
            · cases arrived
            · exact induction arrived
            · simp at arrived

/-- Steps that end in `.` still do so along the target of a link. -/
theorem current_of_detour {tree : FileTree} {location next : Location}
    {front rest : List String}
    (detour : tree.advance location (front ++ ["."]) = .ok (.detour next rest)) :
    ∃ front, rest = front ++ ["."] := by
  induction front generalizing location with
  | nil =>
      simp only [List.nil_append, advance] at detour
      split at detour <;> simp at detour
  | cons step front induction =>
      simp only [List.cons_append, advance] at detour
      split at detour
      · cases detour
      · split at detour
        · exact induction detour
        · split at detour
          · exact induction detour
          · split at detour
            · next target _ =>
                simp only [Except.ok.injEq, Progress.detour.injEq] at detour
                exact ⟨steps target ++ front, by rw [← detour.2, List.append_assoc]⟩
            · exact induction detour
            · simp at detour

theorem directory_of_follow {tree : FileTree} {links : Nat} {location : Location}
    {front : List String} {destination : Destination}
    (followed : tree.follow links location (front ++ ["."]) = .ok destination) :
    ∃ found, destination = .present found ∧ tree.lookup? found = some .directory := by
  induction links generalizing location front with
  | zero => cases followed
  | succ links induction =>
      simp only [follow] at followed
      split at followed
      · cases followed
      · next arrived =>
          cases followed
          exact directory_of_arrived arrived
      · next detour =>
          obtain ⟨front, rfl⟩ := current_of_detour detour
          exact induction followed

/-- A path that ends in a separator denotes no regular file. -/
theorem DenotesFile.endsInSeparator {tree : FileTree} {path : FilePath} {location : Location}
    (denotes : tree.DenotesFile path location) : endsInSeparator path = false := by
  obtain ⟨located, content, found⟩ := denotes
  cases ends : FileTree.endsInSeparator path with
  | false => rfl
  | true =>
      have last : path.text.toList.getLast? = some '/' := of_decide_eq_true ends
      have journey := (resolve_eq_ok_iff.mp (locate_eq_ok_iff.mp located)).2
      have followed := follow_eq_ok_iff.mpr journey
      simp only [steps, last, if_true] at followed
      obtain ⟨place, same, directory⟩ := directory_of_follow followed
      obtain rfl : location = place := by simpa using same
      cases found.symm.trans directory

/-- A regular file is written where it is read. -/
theorem DenotesFile.target_eq {tree : FileTree} {path : FilePath} {location : Location}
    (denotes : tree.DenotesFile path location) : tree.target path = .ok location := by
  have unseparated := denotes.endsInSeparator
  obtain ⟨located, content, found⟩ := denotes
  simp [target, unseparated, locate_eq_ok_iff.mp located, found]

/-! ## Overwriting -/

/-- The tree with the contents of the regular file that a path denotes replaced. -/
def overwrite (tree : FileTree) (path : FilePath) (content : Bytes) : FileTree :=
  match tree.locate path with
  | .error _ => tree
  | .ok location =>
    match tree.lookup? location with
    | some (.file _) => tree.put location (.file content)
    | _ => tree

theorem DenotesFile.overwrite_eq {tree : FileTree} {path : FilePath} {location : Location}
    (denotes : tree.DenotesFile path location) (content : Bytes) :
    tree.overwrite path content = tree.put location (.file content) := by
  obtain ⟨located, old, found⟩ := denotes
  simp [overwrite, located, found]

theorem DenotesFile.location_ne_nil {tree : FileTree} {path : FilePath} {location : Location}
    (denotes : tree.DenotesFile path location) : location ≠ [] := by
  obtain ⟨-, content, found⟩ := denotes
  rintro rfl
  cases found

theorem DenotesFile.sameShape_overwrite {tree : FileTree} {path : FilePath} {location : Location}
    (denotes : tree.DenotesFile path location) (content : Bytes) :
    SameShape tree (tree.overwrite path content) := by
  have below := denotes.location_ne_nil
  rw [denotes.overwrite_eq]
  obtain ⟨-, old, found⟩ := denotes
  refine ⟨rfl, ?_, fun other => ?_⟩
  · have present : location ∈ tree.entries.keys := by
      rw [lookup?, if_neg below] at found
      exact OrderedMap.mem_keys_of_find? found
    simp [put, OrderedMap.keys_insert, present]
  · by_cases same : other = location
    · subst same
      rw [lookup?_put_self tree below, found]
      rfl
    · rw [lookup?_put_of_ne tree same]

theorem DenotesFile.lookup?_overwrite_self {tree : FileTree} {path : FilePath}
    {location : Location} (denotes : tree.DenotesFile path location) (content : Bytes) :
    (tree.overwrite path content).lookup? location = some (.file content) := by
  rw [denotes.overwrite_eq, lookup?_put_self tree denotes.location_ne_nil]

theorem DenotesFile.lookup?_overwrite_of_ne {tree : FileTree} {path : FilePath}
    {location other : Location} (denotes : tree.DenotesFile path location)
    (different : other ≠ location) (content : Bytes) :
    (tree.overwrite path content).lookup? other = tree.lookup? other := by
  rw [denotes.overwrite_eq, lookup?_put_of_ne tree different]

/-- Writing to a path of a regular file is overwriting. -/
theorem DenotesFile.write_eq {tree : FileTree} {path : FilePath} {location : Location}
    (denotes : tree.DenotesFile path location) (content : Bytes) :
    tree.write path content = .ok (tree.overwrite path content) := by
  rw [write, denotes.target_eq, denotes.overwrite_eq]

/-! ## Overwriting several files -/

/-- The tree after files were overwritten one after another. -/
def overwriteAll (tree : FileTree) (changes : List (FilePath × Bytes)) : FileTree :=
  changes.foldl (fun current change => current.overwrite change.1 change.2) tree

/-- Every path denotes a regular file. -/
def AllDenoteFiles (tree : FileTree) (changes : List (FilePath × Bytes)) : Prop :=
  ∀ change ∈ changes, ∃ location, tree.DenotesFile change.1 location

/-- The bytes that were written last to a location. -/
def lastWritten? (tree : FileTree) (changes : List (FilePath × Bytes)) (location : Location) :
    Option Bytes :=
  (changes.reverse.find? fun change => decide (tree.locate change.1 = .ok location)).map Prod.snd

/-- What is written to a location and not written again is what was written last. -/
theorem lastWritten?_of_split {tree : FileTree} {location : Location}
    {before after : List (FilePath × Bytes)} {change : FilePath × Bytes}
    (located : tree.locate change.1 = .ok location)
    (kept : ∀ later ∈ after, tree.locate later.1 ≠ .ok location) :
    tree.lastWritten? (before ++ change :: after) location = some change.2 := by
  have skipped : (after.reverse.find? fun later =>
      decide (tree.locate later.1 = .ok location)) = none := by
    rw [List.find?_eq_none]
    intro later member
    simpa using kept later (List.mem_reverse.mp member)
  rw [lastWritten?, List.reverse_append, List.reverse_cons, List.append_assoc, List.find?_append,
    skipped]
  simp [located]

theorem overwriteAll_append_singleton (tree : FileTree) (changes : List (FilePath × Bytes))
    (change : FilePath × Bytes) :
    tree.overwriteAll (changes ++ [change]) =
      (tree.overwriteAll changes).overwrite change.1 change.2 := by
  simp [overwriteAll]

theorem AllDenoteFiles.sameShape {tree : FileTree} {changes : List (FilePath × Bytes)}
    (denote : tree.AllDenoteFiles changes) : SameShape tree (tree.overwriteAll changes) := by
  induction changes using List.reverseRecOn with
  | nil => exact .refl tree
  | append_singleton changes change induction =>
      have front : SameShape tree (tree.overwriteAll changes) :=
        induction fun earlier member => denote earlier (List.mem_append_left _ member)
      obtain ⟨location, denotes⟩ := denote change (by simp)
      rw [overwriteAll_append_singleton]
      exact front.trans ((front.denotesFile denotes).sameShape_overwrite change.2)

/-- A location holds what was written to it last, or what it held before. -/
theorem AllDenoteFiles.lookup?_overwriteAll {tree : FileTree}
    {changes : List (FilePath × Bytes)} (denote : tree.AllDenoteFiles changes)
    (location : Location) :
    (tree.overwriteAll changes).lookup? location =
      match tree.lastWritten? changes location with
      | some bytes => some (.file bytes)
      | none => tree.lookup? location := by
  induction changes using List.reverseRecOn with
  | nil => rfl
  | append_singleton changes change induction =>
      have earlier : tree.AllDenoteFiles changes := fun earlier member =>
        denote earlier (List.mem_append_left _ member)
      obtain ⟨written, denotes⟩ := denote change (by simp)
      have denotes_now := earlier.sameShape.denotesFile denotes
      rw [overwriteAll_append_singleton]
      by_cases same : location = written
      · subst same
        rw [denotes_now.lookup?_overwrite_self]
        simp [lastWritten?, denotes.1]
      · rw [denotes_now.lookup?_overwrite_of_ne same, induction earlier]
        have elsewhere : tree.locate change.1 ≠ .ok location := by
          rw [denotes.1]
          simpa using Ne.symm same
        simp [lastWritten?, elsewhere]

end FileTree
end ClassEnhancement
