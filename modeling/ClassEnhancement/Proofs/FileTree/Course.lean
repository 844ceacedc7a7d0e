import ClassEnhancement.FileTree.Operations

/-!
# The course of a path

What the steps of a path pass on their way, as a relation: every step is taken from a directory,
and a link leads to other steps.  A tree that keeps all entries of another one keeps the journeys
that do not end at a vacant name, so paths lead where they led before and files read as before.
-/

namespace ClassEnhancement
namespace FileTree

/-- A step to a name, neither to the same directory nor to the one above. -/
def IsName (step : String) : Prop := step ≠ "." ∧ step ≠ ".."

/-- Steps that make progress. -/
inductive Course (tree : FileTree) : Location → List String → Progress → Prop
  /-- All steps are taken. -/
  | arrive (location : Location) : Course tree location [] (.arrived (.present location))
  /-- A step to the same directory. -/
  | stay {location : Location} {rest : List String} {progress : Progress}
      (directory : tree.lookup? location = some .directory)
      (onward : Course tree location rest progress) : Course tree location ("." :: rest) progress
  /-- A step to the directory above. -/
  | leave {location : Location} {rest : List String} {progress : Progress}
      (directory : tree.lookup? location = some .directory)
      (onward : Course tree location.dropLast rest progress) :
      Course tree location (".." :: rest) progress
  /-- A step to a name that is no link. -/
  | enter {location : Location} {step : String} {rest : List String} {progress : Progress}
      {entry : Entry} (directory : tree.lookup? location = some .directory) (named : IsName step)
      (found : tree.lookup? (location ++ [step]) = some entry)
      (unlinked : ∀ target, entry ≠ .link target)
      (onward : Course tree (location ++ [step]) rest progress) :
      Course tree location (step :: rest) progress
  /-- A step to a link. -/
  | divert {location : Location} {step : String} {target : FilePath}
      (directory : tree.lookup? location = some .directory) (named : IsName step)
      (found : tree.lookup? (location ++ [step]) = some (.link target)) (rest : List String) :
      Course tree location (step :: rest) (.detour (origin location target) (steps target ++ rest))
  /-- The last step to a name that does not exist. -/
  | miss {location : Location} {step : String}
      (directory : tree.lookup? location = some .directory) (named : IsName step)
      (absent : tree.lookup? (location ++ [step]) = none) :
      Course tree location [step] (.arrived (.vacant location step))

/-- Courses from link to link, at most as many as are allowed. -/
inductive Journey (tree : FileTree) : Nat → Location → List String → Destination → Prop
  /-- No link is in the way. -/
  | arrive {links : Nat} {location : Location} {steps : List String} {destination : Destination}
      (course : Course tree location steps (.arrived destination)) :
      Journey tree (links + 1) location steps destination
  /-- A link leads to other steps. -/
  | detour {links : Nat} {location next : Location} {steps rest : List String}
      {destination : Destination} (course : Course tree location steps (.detour next rest))
      (onward : Journey tree links next rest destination) :
      Journey tree (links + 1) location steps destination

variable {tree : FileTree} {links : Nat} {location : Location} {steps : List String}
  {progress : Progress} {destination : Destination}

theorem course_of_advance (taken : tree.advance location steps = .ok progress) :
    tree.Course location steps progress := by
  induction steps generalizing location with
  | nil =>
      cases taken
      exact .arrive location
  | cons step rest hypothesis =>
      rw [advance] at taken
      split at taken
      · cases taken
      next directory =>
      have directory := Decidable.not_not.mp directory
      split at taken
      · next same =>
          subst same
          exact .stay directory (hypothesis taken)
      split at taken
      · next up =>
          subst up
          exact .leave directory (hypothesis taken)
      next notSame notUp =>
      split at taken
      · next found =>
          cases taken
          exact .divert directory ⟨notSame, notUp⟩ found rest
      · next entry unlinked found =>
          exact .enter directory ⟨notSame, notUp⟩ found unlinked (hypothesis taken)
      · next absent =>
          split at taken
          · next last =>
              cases taken
              subst last
              exact .miss directory ⟨notSame, notUp⟩ absent
          · cases taken

theorem Course.advance_eq (course : tree.Course location steps progress) :
    tree.advance location steps = .ok progress := by
  induction course with
  | arrive => rfl
  | stay directory _ hypothesis => simp [advance, directory, hypothesis]
  | leave directory _ hypothesis => simp [advance, directory, hypothesis]
  | enter directory named found unlinked _ hypothesis =>
      rw [advance, if_neg (by simp [directory]), if_neg named.1, if_neg named.2, found]
      split
      · next target same => exact absurd (Option.some.inj same) (unlinked target)
      · exact hypothesis
      · next absent => cases absent
  | divert directory named found rest => simp [advance, directory, named.1, named.2, found]
  | miss directory named absent => simp [advance, directory, named.1, named.2, absent]

theorem follow_eq_ok_iff :
    tree.follow links location steps = .ok destination ↔
      tree.Journey links location steps destination := by
  constructor
  · intro followed
    induction links generalizing location steps with
    | zero => cases followed
    | succ links hypothesis =>
        rw [follow] at followed
        split at followed
        · cases followed
        · next taken =>
            cases followed
            exact .arrive (course_of_advance taken)
        · next taken => exact .detour (course_of_advance taken) (hypothesis followed)
  · intro journey
    induction journey with
    | arrive course => rw [follow, course.advance_eq]
    | detour course _ hypothesis =>
        rw [follow, course.advance_eq]
        exact hypothesis

/-! ## Paths -/

/-- The paths that can lead anywhere. -/
def IsUsable (path : FilePath) : Prop := '\x00' ∉ path.text.toList ∧ path.text ≠ ""

theorem resolve_eq_ok_iff {path : FilePath} :
    tree.resolve path = .ok destination ↔
      IsUsable path ∧
        tree.Journey linkLimit (origin tree.workingDirectory path) (FileTree.steps path)
          destination := by
  rw [← follow_eq_ok_iff, resolve, resolveSteps, IsUsable]
  by_cases null : '\x00' ∈ path.text.toList
  · simp [null]
  by_cases empty : path.text = ""
  · simp [empty]
  rw [if_neg null, if_neg empty]
  cases tree.follow linkLimit (origin tree.workingDirectory path) (FileTree.steps path) <;>
    simp [null, empty]

theorem locate_eq_ok_iff {path : FilePath} :
    tree.locate path = .ok location ↔ tree.resolve path = .ok (.present location) := by
  rw [locate]
  split
  · next failed => simp [failed]
  · next vacant => simp [vacant]
  · next present => simp [present]

theorem read_eq_ok_iff {path : FilePath} {content : Bytes} :
    tree.read path = .ok content ↔
      ∃ location, tree.locate path = .ok location ∧
        tree.lookup? location = some (.file content) := by
  rw [read]
  split
  · next location located =>
      simp only [located, Except.ok.injEq, exists_eq_left', contentAt]
      split
      · next found => simp [found]
      · next found => simp [found]
      · next noFile _ => simpa using noFile content
  · next failed => simp [failed]

/-! ## Trees with more entries -/

/-- A tree keeps every entry of another one. -/
structure Extends (before after : FileTree) : Prop where
  workingDirectory : before.workingDirectory = after.workingDirectory
  lookup : ∀ location entry, before.lookup? location = some entry →
    after.lookup? location = some entry

namespace Extends

variable {before middle after : FileTree}

theorem course (grown : Extends before after) (course : before.Course location steps progress)
    (settled : ∀ directory name, progress ≠ .arrived (.vacant directory name)) :
    after.Course location steps progress := by
  induction course with
  | arrive location => exact .arrive location
  | stay directory _ hypothesis => exact .stay (grown.lookup _ _ directory) (hypothesis settled)
  | leave directory _ hypothesis => exact .leave (grown.lookup _ _ directory) (hypothesis settled)
  | enter directory named found unlinked _ hypothesis =>
      exact .enter (grown.lookup _ _ directory) named (grown.lookup _ _ found) unlinked
        (hypothesis settled)
  | divert directory named found rest =>
      exact .divert (grown.lookup _ _ directory) named (grown.lookup _ _ found) rest
  | miss => exact absurd rfl (settled _ _)

theorem journey (grown : Extends before after) {place : Location}
    (journey : before.Journey links location steps (.present place)) :
    after.Journey links location steps (.present place) := by
  generalize reached : Destination.present place = destination at journey
  induction journey with
  | arrive course =>
      subst reached
      exact .arrive (grown.course course nofun)
  | detour course _ hypothesis => exact .detour (grown.course course nofun) (hypothesis reached)

theorem locate (grown : Extends before after) {path : FilePath}
    (located : before.locate path = .ok location) : after.locate path = .ok location := by
  rw [locate_eq_ok_iff, resolve_eq_ok_iff] at located ⊢
  exact ⟨located.1, grown.workingDirectory ▸ grown.journey located.2⟩

theorem read (grown : Extends before after) {path : FilePath} {content : Bytes}
    (held : before.read path = .ok content) : after.read path = .ok content := by
  rw [read_eq_ok_iff] at held ⊢
  obtain ⟨location, located, found⟩ := held
  exact ⟨location, grown.locate located, grown.lookup _ _ found⟩

end Extends

/-! ## Trees with more directories -/

/-- A tree has every entry of another one, and beyond these only directories. -/
structure AddsDirectories (before after : FileTree) : Prop where
  workingDirectory : before.workingDirectory = after.workingDirectory
  lookup : ∀ location, after.lookup? location = before.lookup? location ∨
    before.lookup? location = none ∧ after.lookup? location = some .directory

namespace AddsDirectories

variable {before middle after : FileTree}

theorem refl (tree : FileTree) : AddsDirectories tree tree := ⟨rfl, fun _ => .inl rfl⟩

theorem trans (first : AddsDirectories before middle) (second : AddsDirectories middle after) :
    AddsDirectories before after := by
  refine ⟨first.workingDirectory.trans second.workingDirectory, fun location => ?_⟩
  rcases second.lookup location with same | ⟨absent, added⟩
  · rw [same]
    exact first.lookup location
  · rcases first.lookup location with same | ⟨-, present⟩
    · exact .inr ⟨same.symm.trans absent, added⟩
    · cases absent.symm.trans present

theorem put (absent : tree.lookup? location = none) :
    AddsDirectories tree (tree.put location .directory) := by
  have below : location ≠ [] := by
    rintro rfl
    cases absent
  refine ⟨rfl, fun other => ?_⟩
  by_cases same : other = location
  · subst same
    exact .inr ⟨absent, lookup?_put_self tree below _⟩
  · exact .inl (lookup?_put_of_ne tree same _)

theorem toExtends (added : AddsDirectories before after) : Extends before after := by
  refine ⟨added.workingDirectory, fun location entry found => ?_⟩
  rcases added.lookup location with same | ⟨absent, -⟩
  · exact same.trans found
  · cases absent.symm.trans found

/-- Neither a file nor a link is added, removed or changed. -/
theorem lookup_iff (added : AddsDirectories before after) {entry : Entry}
    (other : entry ≠ .directory) :
    after.lookup? location = some entry ↔ before.lookup? location = some entry := by
  rcases added.lookup location with same | ⟨absent, directory⟩
  · rw [same]
  · simp [absent, directory, other.symm]

theorem createDirectory {path : FilePath} {created : FileTree}
    (success : tree.createDirectory path = .ok created) : AddsDirectories tree created := by
  rw [FileTree.createDirectory] at success
  split at success
  · cases success
  · next directory name _ =>
      split at success
      · cases success
      · next allowed =>
          cases success
          refine .put ?_
          simpa using fun occupied => allowed (.inr (.inr occupied))

/-- Whether or not all directories can be created, nothing else happens. -/
theorem createDirectoriesWithin (bound : Nat) (path : FilePath) :
    AddsDirectories tree (tree.createDirectoriesWithin bound path).1 := by
  induction bound generalizing path with
  | zero => exact .refl tree
  | succ bound hypothesis =>
      rw [FileTree.createDirectoriesWithin]
      split
      · exact .refl tree
      split
      · next created_here => exact .createDirectory created_here
      split
      · exact .refl tree
      split
      · exact .refl tree
      next parent _ =>
      have grown := hypothesis parent
      split
      · next below_eq => rwa [below_eq] at grown
      next below below_eq =>
      rw [below_eq] at grown
      split
      · next created_last => exact grown.trans (.createDirectory created_last)
      · exact grown

theorem createDirectories (path : FilePath) : AddsDirectories tree (tree.createDirectories path).1 :=
  createDirectoriesWithin _ path

end AddsDirectories

end FileTree
end ClassEnhancement
