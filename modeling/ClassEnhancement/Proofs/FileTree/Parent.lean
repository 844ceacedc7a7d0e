import ClassEnhancement.Proofs.FileTree.Descent
import Mathlib.Data.List.DropRight

/-!
# The directory above a path

A path that leads anywhere passes the directory that its parent denotes.  So directories that could
not all be created are missing on the way to everything below them.
-/

namespace ClassEnhancement
namespace FilePath

variable {path parent : FilePath}

/-! ## Idle pieces -/

theorem exists_idle (pieces : List String) :
    ∃ idle, dropIdle pieces ++ idle = pieces ∧ ∀ piece ∈ idle, isIdlePiece piece = true := by
  refine ⟨(pieces.reverse.takeWhile isIdlePiece).reverse, ?_, fun piece member => ?_⟩
  · rw [dropIdle, ← List.reverse_append, List.takeWhile_append_dropWhile, List.reverse_reverse]
  · exact List.mem_takeWhile_imp (List.mem_reverse.mp member)

theorem not_isIdlePiece_getLast {pieces : List String} (some_piece : dropIdle pieces ≠ []) :
    isIdlePiece ((dropIdle pieces).getLast some_piece) = false := by
  exact Bool.eq_false_of_not_eq_true (List.rdropWhile_last_not isIdlePiece pieces some_piece)

/-! ## Spellings of a parent -/

theorem isAbsolute_iff (path : FilePath) :
    path.isAbsolute = true ↔ ∃ rest, rest ≠ [] ∧ Text.pieces '/' path.text = "" :: rest := by
  rw [isAbsolute, decide_eq_true_eq]
  constructor
  · intro absolute
    obtain ⟨rest, split⟩ := List.head?_eq_some_iff.mp absolute
    rw [← List.nil_append ('/' :: rest)] at split
    exact ⟨_, Text.pieces_ne_nil _ _, pieces_of_toList split⟩
  · rintro ⟨rest, some_piece, split⟩
    obtain ⟨next, later, rfl⟩ := List.exists_cons_of_ne_nil some_piece
    rw [← Text.intercalate_pieces '/' path.text, split, String.intercalate_cons_cons]
    simp

/-- How the parent of a path is spelled, unless it is empty: by the first pieces, which an idle one
does not end, or by the beginning alone. -/
inductive IsAbove (path parent : FilePath) : Prop
  | front {kept back : List String} (split : Text.pieces '/' path.text = kept ++ back)
      (some_kept : kept ≠ []) (ends : isIdlePiece (kept.getLast some_kept) = false)
      (more : back.filter (· ≠ "") ≠ []) (spelled : Text.pieces '/' parent.text = kept)
  | root (absolute : path.isAbsolute = true) (more : path.names ≠ []) (spelled : parent.text = "/")
  | current (relative : path.isAbsolute = false) (more : path.names ≠ [])
      (listed : "." ∈ Text.pieces '/' path.text) (spelled : parent.text = ".")

theorem isAbsolute_eq_of_pieces {back : List String} (some_piece : Text.pieces '/' parent.text ≠ [])
    (ends : isIdlePiece ((Text.pieces '/' parent.text).getLast some_piece) = false)
    (split : Text.pieces '/' path.text = Text.pieces '/' parent.text ++ back) :
    parent.isAbsolute = path.isAbsolute := by
  rw [Bool.eq_iff_iff, isAbsolute_iff, isAbsolute_iff, split]
  generalize Text.pieces '/' parent.text = kept at some_piece ends
  constructor
  · rintro ⟨rest, some_rest, rfl⟩
    exact ⟨rest ++ back, List.append_ne_nil_of_left_ne_nil some_rest _, rfl⟩
  · rintro ⟨rest, -, joined⟩
    obtain ⟨first, others, rfl⟩ := List.exists_cons_of_ne_nil some_piece
    obtain ⟨rfl, -⟩ := List.cons.inj joined
    refine ⟨others, ?_, rfl⟩
    rintro rfl
    cases ends

theorem mem_text_of_pieces {back : List String}
    (split : Text.pieces '/' path.text = Text.pieces '/' parent.text ++ back) {letter : Char}
    (inside : letter ∈ parent.text.toList) (no_separator : letter ≠ '/') :
    letter ∈ path.text.toList := by
  rw [← Text.intercalate_pieces '/' parent.text] at inside
  rcases Text.mem_intercalate inside with separator | ⟨piece, listed, here⟩
  · exact absurd (List.mem_singleton.mp separator) no_separator
  · have member : piece ∈ Text.pieces '/' path.text := by
      rw [split]
      exact List.mem_append_left _ listed
    exact Text.mem_of_mem_pieces member here

theorem filterMap_idle {idle : List String} (idles : ∀ piece ∈ idle, isIdlePiece piece = true) :
    idle.filterMap componentOfPiece? = [] := by
  rw [List.filterMap_eq_nil_iff]
  intro piece listed
  have either := idles piece listed
  simp only [isIdlePiece, decide_eq_true_eq] at either
  simp [componentOfPiece?, either]

/-- A path that ends neither at the root nor in a leading `.` has a piece that counts. -/
theorem dropIdle_ne_nil {last : Component} (ends : path.components.getLast? = some last)
    (not_root : last ≠ .root) (not_current : last ≠ .current) :
    dropIdle (Text.pieces '/' path.text) ≠ [] := by
  intro nothing
  obtain ⟨idle, split, idles⟩ := exists_idle (Text.pieces '/' path.text)
  rw [nothing, List.nil_append] at split
  subst split
  rw [components, filterMap_idle idles, List.append_nil] at ends
  split_ifs at ends
  · exact not_root (Option.some.inj ends).symm
  · exact not_current (Option.some.inj ends).symm
  · cases ends

theorem isAbove_of_parent? (above : path.parent? = some parent) (some_text : parent.text ≠ "") :
    IsAbove path parent := by
  rw [parent?] at above
  split at above
  · cases above
  · cases above
  · cases above
    exact absurd rfl some_text
  next last not_root not_current ends =>
  have some_piece := dropIdle_ne_nil ends not_root not_current
  obtain ⟨idle, split, idles⟩ := exists_idle (Text.pieces '/' path.text)
  obtain ⟨inner, inner_split, inner_idles⟩ :=
    exists_idle (dropIdle (Text.pieces '/' path.text)).dropLast
  have counts := not_isIdlePiece_getLast some_piece
  rw [← List.dropLast_append_getLast some_piece, ← inner_split, List.append_assoc,
    List.append_assoc] at split
  generalize (dropIdle (Text.pieces '/' path.text)).getLast some_piece = step at split counts
  dsimp only at above
  generalize kept_eq : dropIdle (dropIdle (Text.pieces '/' path.text)).dropLast = kept
    at split above
  have step_text : step ≠ "" := by
    rintro rfl
    cases counts
  have more : (inner ++ ([step] ++ idle)).filter (· ≠ "") ≠ [] := by
    simp [step_text]
  split at above
  · next none_kept =>
      have named : path.names ≠ [] := by
        rw [names, ← split, none_kept, List.nil_append]
        exact more
      cases above
      split_ifs at some_text ⊢ with absolute first
      · exact .root absolute named rfl
      · exact .current (by simpa using absolute) named (List.mem_of_head? first) rfl
      · exact absurd rfl some_text
  · next some_kept =>
      cases above
      subst kept_eq
      refine .front split.symm some_kept (not_isIdlePiece_getLast some_kept) more ?_
      refine Text.pieces_intercalate some_kept fun piece listed => ?_
      have member : piece ∈ Text.pieces '/' path.text := by
        rw [← split]
        exact List.mem_append_left _ listed
      exact Text.free_of_mem_pieces member

end FilePath

namespace FileTree

open FilePath

variable {tree after : FileTree} {path parent : FilePath} {location : Location}
  {destination : Destination}

/-- What is asked for after names: a directory, if the path ends in a separator. -/
theorem steps_eq (path : FilePath) : ∃ rest, steps path = path.names ++ rest ∧
    ∀ step ∈ rest, step = "." := by
  rw [steps]
  split
  · exact ⟨["."], rfl, by simp⟩
  · exact ⟨[], (List.append_nil _).symm, by simp⟩

theorem steps_of_ends (some_piece : Text.pieces '/' path.text ≠ [])
    (ends : isIdlePiece ((Text.pieces '/' path.text).getLast some_piece) = false) :
    steps path = path.names := by
  rw [steps, if_neg]
  · rfl
  · intro separated
    obtain ⟨front, split⟩ := List.getLast?_eq_some_iff.mp separated
    simp only [pieces_of_toList split] at ends
    rw [List.getLast_append_of_ne_nil _ (by decide)] at ends
    exact absurd ends (by decide)

theorem journey_current {links : Nat} (directory : tree.lookup? location = some .directory) :
    tree.Journey (links + 1) location ["."] (.present location) :=
  .arrive (.stay directory (.arrive location))

theorem Journey.directory_of_ne_nil {links : Nat} {steps : List String} (more : steps ≠ [])
    (journey : tree.Journey links location steps destination) :
    tree.lookup? location = some .directory := by
  obtain ⟨step, rest, rfl⟩ := List.exists_cons_of_ne_nil more
  exact journey.directory

/-- A path that leads anywhere passes the directory that its parent denotes. -/
theorem directory_of_parent? (above : path.parent? = some parent) (some_text : parent.text ≠ "")
    (resolved : tree.resolve path = .ok destination) :
    ∃ location, tree.locate parent = .ok location ∧ tree.lookup? location = some .directory := by
  obtain ⟨usable, journey⟩ := resolve_eq_ok_iff.mp resolved
  obtain ⟨rest, steps_path, -⟩ := steps_eq path
  rw [steps_path] at journey
  cases isAbove_of_parent? above some_text with
  | @front kept back split some_kept ends more spelled =>
      subst spelled
      have free : '\x00' ∉ parent.text.toList := fun null =>
        usable.1 (mem_text_of_pieces split null (by decide))
      have same_start : origin tree.workingDirectory parent = origin tree.workingDirectory path := by
        rw [origin, origin, isAbsolute_eq_of_pieces some_kept ends split]
      rw [names, split, List.filter_append, List.append_assoc] at journey
      obtain ⟨middle, left, first, second⟩ := journey.split (List.append_ne_nil_of_left_ne_nil more _)
      refine ⟨middle, ?_, second.directory_of_ne_nil (List.append_ne_nil_of_left_ne_nil more _)⟩
      rw [locate_eq_ok_iff, resolve_eq_ok_iff, steps_of_ends some_kept ends, same_start]
      exact ⟨⟨free, some_text⟩, first⟩
  | root absolute more spelled =>
      refine ⟨[], ?_, rfl⟩
      obtain ⟨text⟩ := parent
      cases spelled
      rw [locate_eq_ok_iff, resolve_eq_ok_iff]
      exact ⟨⟨by decide, some_text⟩, journey_current rfl⟩
  | current relative more listed spelled =>
      have directory := journey.directory_of_ne_nil (by simp [more])
      rw [origin, relative, if_neg Bool.false_ne_true] at directory
      refine ⟨tree.workingDirectory, ?_, directory⟩
      obtain ⟨text⟩ := parent
      cases spelled
      rw [locate_eq_ok_iff, resolve_eq_ok_iff]
      exact ⟨⟨by decide, some_text⟩, journey_current directory⟩

/-! ## Directories that could not be created -/

/-- Steps go on from where other ones arrive. -/
theorem Course.append {front back : List String} {middle : Location} {progress : Progress}
    (course : tree.Course location front (.arrived (.present middle)))
    (onward : tree.Course middle back progress) :
    tree.Course location (front ++ back) progress := by
  generalize reached : Progress.arrived (.present middle) = arrived at course
  induction course with
  | arrive =>
      cases reached
      exact onward
  | stay here _ hypothesis => exact .stay here (hypothesis reached)
  | leave here _ hypothesis => exact .leave here (hypothesis reached)
  | enter here named found unlinked _ hypothesis =>
      exact .enter here named found unlinked (hypothesis reached)
  | divert | miss => cases reached

theorem Course.detour_append {steps rest : List String} {next : Location}
    (course : tree.Course location steps (.detour next rest)) (more : List String) :
    tree.Course location (steps ++ more) (.detour next (rest ++ more)) := by
  generalize reached : Progress.detour next rest = progress at course
  induction course with
  | arrive | miss => cases reached
  | stay here _ hypothesis => exact .stay here (hypothesis reached)
  | leave here _ hypothesis => exact .leave here (hypothesis reached)
  | enter here named found unlinked _ hypothesis =>
      exact .enter here named found unlinked (hypothesis reached)
  | divert here named found rest =>
      cases reached
      rw [List.append_assoc]
      exact .divert here named found _

theorem Journey.append {links : Nat} {front back : List String} {middle : Location}
    (journey : tree.Journey links location front (.present middle))
    (onward : tree.Course middle back (.arrived destination)) :
    tree.Journey links location (front ++ back) destination := by
  generalize reached : Destination.present middle = arrived at journey
  induction journey with
  | arrive course =>
      subst reached
      exact .arrive (course.append onward)
  | detour course _ hypothesis => exact .detour (course.detour_append _) (hypothesis reached)

theorem isDirectory_iff :
    tree.isDirectory path = true ↔
      ∃ location, tree.locate path = .ok location ∧ tree.lookup? location = some .directory := by
  rw [isDirectory, find?, beq_iff_eq]
  cases tree.locate path with
  | error => simp
  | ok location => simp

theorem isAbsolute_of_nameless (nameless : path.names = []) (some_text : path.text ≠ "") :
    path.isAbsolute = true := by
  have joined := Text.intercalate_pieces '/' path.text
  rw [isAbsolute_iff]
  obtain ⟨first, rest, split⟩ := List.exists_cons_of_ne_nil (Text.pieces_ne_nil '/' path.text)
  have empty : first = "" := by
    have kept := List.filter_eq_nil_iff.mp nameless first (by simp [split])
    simpa using kept
  subst empty
  refine ⟨rest, ?_, split⟩
  rintro rfl
  rw [split, String.intercalate_singleton] at joined
  exact some_text joined.symm

/-- The last step to a directory is taken from a directory. -/
theorem exists_lastStep (there : tree.isDirectory path = true) :
    ∃ directory name, tree.lastStep path = .ok (directory, name) := by
  obtain ⟨location, located, -⟩ := isDirectory_iff.mp there
  obtain ⟨usable, journey⟩ := resolve_eq_ok_iff.mp (locate_eq_ok_iff.mp located)
  obtain ⟨rest, steps_path, -⟩ := steps_eq path
  rw [lastStep, ← names]
  split
  · next nameless =>
      rw [isAbsolute_of_nameless (List.getLast?_eq_none_iff.mp nameless) usable.2]
      exact ⟨[], ".", rfl⟩
  · next name last =>
      obtain ⟨front, split⟩ := List.getLast?_eq_some_iff.mp last
      rw [steps_path, split, List.append_assoc] at journey
      obtain ⟨middle, left, first, second⟩ := journey.split (List.cons_ne_nil name rest)
      have followed := follow_eq_ok_iff.mpr (first.append (.stay second.directory (.arrive _)))
      rw [split, List.dropLast_concat, resolveSteps, if_neg usable.1, if_neg usable.2, followed]
      exact ⟨middle, name, rfl⟩

/-- Where a path denotes a directory, creating it finds that something is there. -/
theorem createDirectory_ne_notFound (there : tree.isDirectory path = true) :
    tree.createDirectory path ≠ .error (.system .notFound) := by
  obtain ⟨directory, name, last⟩ := exists_lastStep there
  rw [createDirectory, last]
  dsimp only
  split <;> simp

/-- A directory is not there when it cannot be created, as long as it is not there when those above
it cannot be. -/
theorem isDirectory_of_failed {bound : Nat} {error : FileError}
    (above : ∀ parent below cause, path.parent? = some parent →
      tree.isDirectory path = false →
      tree.createDirectoriesWithin bound parent = (below, .error cause) →
      below.isDirectory path = false)
    (failed : tree.createDirectoriesWithin (bound + 1) path = (after, .error error)) :
    after.isDirectory path = false := by
  rw [createDirectoriesWithin] at failed
  split at failed
  · cases failed
  split at failed
  · cases failed
  next cause refused =>
  split at failed
  · obtain ⟨rfl, outcome⟩ := Prod.mk.inj failed
    split at outcome
    · cases outcome
    · next missing => exact Bool.eq_false_of_not_eq_true missing
  next not_found =>
  have missing : tree.isDirectory path = false := by
    refine Bool.eq_false_of_not_eq_true fun there => createDirectory_ne_notFound there ?_
    rw [refused, Decidable.not_not.mp not_found]
  split at failed
  · obtain ⟨rfl, -⟩ := Prod.mk.inj failed
    exact missing
  next parent parent_eq =>
  split at failed
  · next below other inner =>
      obtain ⟨rfl, -⟩ := Prod.mk.inj failed
      exact above parent below other parent_eq missing inner
  split at failed
  · cases failed
  · obtain ⟨rfl, outcome⟩ := Prod.mk.inj failed
    split at outcome
    · cases outcome
    · next absent => exact Bool.eq_false_of_not_eq_true absent

/-- Directories that could not all be created are not there. -/
theorem isDirectory_of_createDirectoriesWithin {bound : Nat} {error : FileError}
    (failed : tree.createDirectoriesWithin (bound + 1) path = (after, .error error)) :
    after.isDirectory path = false := by
  induction bound generalizing path error after with
  | zero =>
      refine isDirectory_of_failed (fun parent below cause _ missing inner => ?_) failed
      obtain ⟨rfl, -⟩ := Prod.mk.inj inner
      exact missing
  | succ bound hypothesis =>
      refine isDirectory_of_failed (fun parent below cause parent_eq _ inner => ?_) failed
      have some_text : parent.text ≠ "" := by
        intro empty
        rw [createDirectoriesWithin, if_pos empty] at inner
        cases inner
      refine Bool.eq_false_of_not_eq_true fun there => ?_
      obtain ⟨location, located, -⟩ := isDirectory_iff.mp there
      have above := directory_of_parent? parent_eq some_text (locate_eq_ok_iff.mp located)
      exact Bool.eq_false_iff.mp (hypothesis inner) (isDirectory_iff.mpr above)

theorem isDirectory_of_createDirectories {error : FileError}
    (failed : tree.createDirectories path = (after, .error error)) :
    after.isDirectory path = false :=
  isDirectory_of_createDirectoriesWithin failed

end FileTree
end ClassEnhancement
