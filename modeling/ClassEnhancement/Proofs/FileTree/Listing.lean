import ClassEnhancement.Proofs.FileTree.Descent

/-!
# Directories that list their entries in another order

A file system lists the entries of a directory in an order of its own.  Whatever that order is, a
walk that ends with no error meets the same files, and a walk ends with an error in one order if and
only if it does in any other.
-/

namespace ClassEnhancement
namespace FileTree

open scoped List

/-! ## Visits that meet the same files -/

namespace Visit

theorem stopped_andThen_eq_none_iff {first next : Visit} :
    (first.andThen next).stopped = none ↔ first.stopped = none ∧ next.stopped = none := by
  constructor
  · exact fun finished => ⟨(of_andThen finished).1, (of_andThen finished).2.1⟩
  · rintro ⟨first_finished, next_finished⟩
    rw [andThen, first_finished]
    exact next_finished

theorem stopped_sequence_eq_none_iff {visits : List Visit} :
    (sequence visits).stopped = none ↔ ∀ visit ∈ visits, visit.stopped = none := by
  induction visits with
  | nil => simp [sequence, nothing]
  | cons first rest hypothesis =>
      rw [List.forall_mem_cons, ← hypothesis]
      exact stopped_andThen_eq_none_iff

theorem files_sequence {visits : List Visit} (finished : (sequence visits).stopped = none) :
    (sequence visits).files = visits.flatMap files := by
  induction visits with
  | nil => rfl
  | cons first rest hypothesis =>
      obtain ⟨-, rest_finished, files_eq⟩ := of_andThen finished
      rw [List.flatMap_cons, ← hypothesis rest_finished]
      exact files_eq

/-- Both visits end early, or both meet the same files. -/
structure Alike (left right : Visit) : Prop where
  /-- Neither goes on where the other one stops. -/
  stopped_iff : left.stopped = none ↔ right.stopped = none
  /-- Both come to the same files. -/
  files_perm : left.stopped = none → left.files ~ right.files

theorem Alike.refl (visit : Visit) : visit.Alike visit := ⟨.rfl, fun _ => .refl _⟩

/-- Visits that are alike, name by name, are alike in any order of the names. -/
theorem Alike.sequence {names others : List String} (order : names ~ others)
    {left right : String → Visit} (alike : ∀ name ∈ names, (left name).Alike (right name)) :
    (sequence (names.map left)).Alike (sequence (others.map right)) := by
  have stopped_iff : (Visit.sequence (names.map left)).stopped = none ↔
      (Visit.sequence (others.map right)).stopped = none := by
    simp only [stopped_sequence_eq_none_iff, List.forall_mem_map]
    constructor
    · intro finished name listed
      have listed := order.mem_iff.mpr listed
      exact (alike name listed).stopped_iff.mp (finished name listed)
    · intro finished name listed
      exact (alike name listed).stopped_iff.mpr (finished name (order.mem_iff.mp listed))
  refine ⟨stopped_iff, fun finished => ?_⟩
  rw [files_sequence finished, files_sequence (stopped_iff.mp finished), List.flatMap_map,
    List.flatMap_map]
  rw [stopped_sequence_eq_none_iff, List.forall_mem_map] at finished
  calc
    names.flatMap (fun name => (left name).files) ~ names.flatMap fun name => (right name).files :=
      List.Perm.flatMap_left _ fun name listed =>
        (alike name listed).files_perm (finished name listed)
    _ ~ others.flatMap fun name => (right name).files := order.flatMap_right _

end Visit

/-! ## Orders of entries -/

/-- The order in which directories list their entries; it may depend on the path by which a walk
has come to the directory. -/
structure Listing where
  /-- The names of a directory, in this order. -/
  arrange : FilePath → List String → List String
  /-- All of them are listed, and nothing else. -/
  perm : ∀ path names, arrange path names ~ names

namespace Listing

/-- The order in which a tree keeps its entries. -/
def stored : Listing := ⟨fun _ names => names, fun _ _ => .refl _⟩

@[simp]
theorem stored_arrange (path : FilePath) (names : List String) :
    stored.arrange path names = names := rfl

/-- Last entries first. -/
def reversed : Listing := ⟨fun _ names => names.reverse, fun _ names => names.reverse_perm⟩

end Listing

/-- Visits an entry by its location and path, where a directory is entered in some way. -/
def visitEntry (tree : FileTree) (enter : Location → Visit) (ancestors : List Ancestor)
    (location : Location) (path : FilePath) : Visit :=
  match tree.lookup? location with
  | none => ⟨[], some (.unreadable path (.system .notFound))⟩
  | some (.file _) => ⟨[path], none⟩
  | some .directory => enter location
  | some (.link _) =>
    match tree.locate path with
    | .error cause => ⟨[], some (.unreadable path cause)⟩
    | .ok reached =>
      if tree.lookup? reached = some .directory then
        match ancestors.lookup reached with
        | some above => ⟨[], some (.loop path above)⟩
        | none => enter reached
      else ⟨[path], none⟩

/-- Visits an entry at a bounded depth, in the order of a listing. -/
def visitListed (listing : Listing) (tree : FileTree) :
    Nat → List Ancestor → Location → FilePath → Visit
  | 0, _, _, _ => .nothing
  | depth + 1, ancestors, location, path =>
    tree.visitEntry
      (fun directory => .sequence ((listing.arrange path (tree.children directory)).map fun name =>
        visitListed listing tree depth ((directory, path) :: ancestors) (directory ++ [name])
          (path.child name)))
      ancestors location path

/-- Walks the directory that a path denotes, in the order of a listing. -/
def walkListed (listing : Listing) (tree : FileTree) (root : FilePath) : Visit :=
  match tree.locate root with
  | .error cause => ⟨[], some (.unreadable root cause)⟩
  | .ok location => tree.visitListed listing tree.walkDepth [] location root

variable {tree : FileTree} {listing other : Listing} {depth : Nat} {ancestors : List Ancestor}
  {location : Location} {path : FilePath}

theorem visit_succ :
    tree.visit (depth + 1) ancestors location path =
      tree.visitEntry (tree.visitBelow depth ancestors · path) ancestors location path := by
  rw [visit]
  rfl

theorem visitListed_stored (tree : FileTree) (depth : Nat) (ancestors : List Ancestor)
    (location : Location) (path : FilePath) :
    tree.visitListed .stored depth ancestors location path =
      tree.visit depth ancestors location path := by
  induction depth generalizing ancestors location path with
  | zero => rfl
  | succ depth hypothesis =>
      rw [visitListed, visit_succ]
      simp only [Listing.stored_arrange, hypothesis, visitBelow]

theorem walkListed_stored (tree : FileTree) (root : FilePath) :
    tree.walkListed .stored root = tree.walk root := by
  rw [walkListed, walk]
  cases tree.locate root with
  | error cause => rfl
  | ok location => exact tree.visitListed_stored _ _ _ _

theorem alike_visitEntry {enter enter' : Location → Visit}
    (alike : ∀ directory, (enter directory).Alike (enter' directory)) :
    (tree.visitEntry enter ancestors location path).Alike
      (tree.visitEntry enter' ancestors location path) := by
  simp only [visitEntry]
  split
  · exact .refl _
  · exact .refl _
  · exact alike _
  · split
    · exact .refl _
    · split
      · split
        · exact .refl _
        · exact alike _
      · exact .refl _

/-- The order of entries decides only the order of files, and where a walk ends that ends early. -/
theorem alike_visitListed (listing other : Listing) (depth : Nat) (ancestors : List Ancestor)
    (location : Location) (path : FilePath) :
    (tree.visitListed listing depth ancestors location path).Alike
      (tree.visitListed other depth ancestors location path) := by
  induction depth generalizing ancestors location path with
  | zero => exact .refl _
  | succ depth hypothesis =>
      rw [visitListed, visitListed]
      refine alike_visitEntry fun directory => ?_
      refine .sequence ((listing.perm path _).trans (other.perm path _).symm) fun name _ => ?_
      exact hypothesis _ _ _

theorem alike_walkListed (listing other : Listing) (tree : FileTree) (root : FilePath) :
    (tree.walkListed listing root).Alike (tree.walkListed other root) := by
  rw [walkListed, walkListed]
  cases tree.locate root with
  | error cause => exact .refl _
  | ok location => exact alike_visitListed listing other _ _ _ _

end FileTree
end ClassEnhancement
