import ClassEnhancement.FileTree.Walk
import ClassEnhancement.Proofs.FileTree.Below
import ClassEnhancement.Proofs.FileTree.Shape
import Mathlib.Data.Finset.Card
import Mathlib.Tactic.Ring

/-!
# What a walk meets

A walk that ends with no error has met every regular file that names below its root lead to.  Going
down along the names, the walk comes from directory to directory as the path does.  Its depth is
enough: a plain step leaves fewer entries below, and a link that is followed leads to a directory
that the walk was not inside of.
-/

namespace ClassEnhancement
namespace FileTree

variable {tree : FileTree} {links : Nat} {location middle target : Location}
  {front back : List String} {progress : Progress} {destination : Destination}

/-! ## Parts of a journey -/

theorem Course.split (course : tree.Course location (front ++ back) progress) (more : back ≠ []) :
    (∃ middle, tree.Course location front (.arrived (.present middle)) ∧
        tree.Course middle back progress) ∨
      ∃ next rest, tree.Course location front (.detour next rest) ∧
        progress = .detour next (rest ++ back) := by
  induction front generalizing location with
  | nil => exact .inl ⟨location, .arrive location, course⟩
  | cons step front induction =>
      rw [List.cons_append] at course
      generalize later : front ++ back = rest at course
      cases course with
      | stay directory onward =>
          subst later
          rcases induction onward with ⟨middle, first, second⟩ | ⟨next, rest, first, same⟩
          · exact .inl ⟨middle, .stay directory first, second⟩
          · exact .inr ⟨next, rest, .stay directory first, same⟩
      | leave directory onward =>
          subst later
          rcases induction onward with ⟨middle, first, second⟩ | ⟨next, rest, first, same⟩
          · exact .inl ⟨middle, .leave directory first, second⟩
          · exact .inr ⟨next, rest, .leave directory first, same⟩
      | enter directory named found unlinked onward =>
          subst later
          rcases induction onward with ⟨middle, first, second⟩ | ⟨next, rest, first, same⟩
          · exact .inl ⟨middle, .enter directory named found unlinked first, second⟩
          · exact .inr ⟨next, rest, .enter directory named found unlinked first, same⟩
      | divert directory named found =>
          subst later
          exact .inr ⟨_, _, .divert directory named found front, by rw [List.append_assoc]⟩
      | miss => exact (more (List.append_eq_nil_iff.mp later).2).elim

/-- A journey passes the place where its first steps alone lead. -/
theorem Journey.split (journey : tree.Journey links location (front ++ back) destination)
    (more : back ≠ []) : ∃ middle left, tree.Journey links location front (.present middle) ∧
      tree.Journey left middle back destination := by
  generalize all : front ++ back = steps at journey
  induction journey generalizing front with
  | arrive course =>
      subst all
      rcases course.split more with ⟨middle, first, second⟩ | ⟨_, _, _, detour⟩
      · exact ⟨middle, 1, .arrive first, .arrive second⟩
      · cases detour
  | detour course onward induction =>
      subst all
      rcases course.split more with ⟨middle, first, second⟩ | ⟨next, rest, first, same⟩
      · exact ⟨middle, _, .arrive first, .detour second onward⟩
      · cases same
        obtain ⟨middle, left, before, after⟩ := induction rfl
        exact ⟨middle, left, .detour first before, after⟩

theorem Journey.unique {other : Destination}
    (journey : tree.Journey links location front destination)
    (journey' : tree.Journey links location front other) : destination = other :=
  Except.ok.inj ((follow_eq_ok_iff.mpr journey).symm.trans (follow_eq_ok_iff.mpr journey'))

theorem Journey.directory {step : String}
    (journey : tree.Journey links location (step :: back) destination) :
    tree.lookup? location = some .directory := by
  cases journey with
  | arrive course | detour course =>
      cases course <;> assumption

/-- A step to a name leads to its entry, unless the entry is a link. -/
theorem Journey.entry {name : String} (named : IsName name)
    (journey : tree.Journey links location [name] (.present target)) :
    ∃ entry, tree.lookup? (location ++ [name]) = some entry ∧
      ((∀ link, entry ≠ .link link) → target = location ++ [name]) := by
  cases journey with
  | arrive course =>
      cases course with
      | stay => exact (named.1 rfl).elim
      | leave => exact (named.2 rfl).elim
      | enter _ _ found _ onward =>
          cases onward
          exact ⟨_, found, fun _ => rfl⟩
  | detour course =>
      cases course with
      | stay => exact (named.1 rfl).elim
      | leave => exact (named.2 rfl).elim
      | enter _ _ _ _ onward => cases onward
      | divert _ _ found => exact ⟨_, found, fun unlinked => (unlinked _ rfl).elim⟩

/-! ## Directories on the way -/

/-- The names of a path lead to a location. -/
def Arrives (tree : FileTree) (path : FilePath) (location : Location) : Prop :=
  tree.Journey linkLimit (origin tree.workingDirectory path) path.names (.present location)

theorem Arrives.unique {path : FilePath} (arrives : tree.Arrives path location)
    (arrives' : tree.Arrives path target) : location = target := by
  cases Journey.unique arrives arrives'
  rfl

theorem arrives_join_iff (path : FilePath) {names : List String} (some_name : names ≠ [])
    (plain : ∀ name ∈ names, FilePath.IsPlain name) :
    tree.Arrives (path.join (FilePath.ofNames names)) target ↔
      tree.Journey linkLimit (origin tree.workingDirectory path) (path.names ++ names)
        (.present target) := by
  rw [Arrives, FilePath.origin_join path some_name plain, FilePath.names_join path some_name plain]

theorem locate_join_iff (path : FilePath) {names : List String} (some_name : names ≠ [])
    (plain : ∀ name ∈ names, FilePath.IsPlain name)  :
    tree.locate (path.join (FilePath.ofNames names)) = .ok target ↔
      IsUsable (path.join (FilePath.ofNames names)) ∧
        tree.Arrives (path.join (FilePath.ofNames names)) target := by
  rw [locate_eq_ok_iff, resolve_eq_ok_iff, FilePath.steps_join path some_name plain, Arrives,
    FilePath.names_join path some_name plain]

theorem Journey.stays {step : String} (current : step = ".")
    (journey : tree.Journey links location [step] (.present target)) : location = target := by
  cases journey with
  | arrive course =>
      cases course with
      | stay _ onward =>
          cases onward
          rfl
      | leave => exact absurd current (by decide)
      | enter _ named => exact (named.1 current).elim
  | detour course =>
      cases course with
      | stay _ onward => cases onward
      | leave => exact absurd current (by decide)
      | enter _ named => exact (named.1 current).elim
      | divert _ named => exact (named.1 current).elim

/-- The names of a path lead where it leads, also when it ends in a separator. -/
theorem arrives_of_locate {path : FilePath} (located : tree.locate path = .ok location) :
    tree.Arrives path location := by
  have journey := (resolve_eq_ok_iff.mp (locate_eq_ok_iff.mp located)).2
  rw [steps] at journey
  split at journey
  · obtain ⟨middle, left, before, after⟩ := journey.split (List.cons_ne_nil _ _)
    obtain rfl := after.stays rfl
    exact before
  · exact journey

/-- One of the names below a directory leads to an entry there, or along a link. -/
structure Passes (tree : FileTree) (path : FilePath) (directory : Location) (name : String)
    (next : Location) : Prop where
  located : tree.locate (path.child name) = .ok next
  entry : ∃ entry, tree.lookup? (directory ++ [name]) = some entry ∧
    ((∀ link, entry ≠ .link link) → next = directory ++ [name])

theorem child_eq_join (path : FilePath) (name : String) :
    path.child name = path.join (.ofNames [name]) := by
  rw [FilePath.child, FilePath.ofNames, String.intercalate_singleton]

/-- Names that lead to a place lead there through every directory on the way. -/
theorem passes_of_locate {path : FilePath} {name : String} {names : List String}
    (plain : ∀ other ∈ name :: names, FilePath.IsPlain other) (arrives : tree.Arrives path location)
    (located : tree.locate (path.join (.ofNames (name :: names))) = .ok target) :
    ∃ next, tree.Passes path location name next ∧
      (names = [] ∧ next = target ∨ names ≠ [] ∧ tree.lookup? next = some .directory) := by
  obtain ⟨first, rest⟩ := List.forall_mem_cons.mp plain
  have alone : ∀ other ∈ [name], FilePath.IsPlain other := by simpa using first
  have entry_of : ∀ next, tree.Arrives (path.join (.ofNames [name])) next →
      ∃ entry, tree.lookup? (location ++ [name]) = some entry ∧
        ((∀ link, entry ≠ .link link) → next = location ++ [name]) := by
    intro next arrives_next
    have journey := (arrives_join_iff path (List.cons_ne_nil name []) alone).mp arrives_next
    obtain ⟨middle, left, before, after⟩ := journey.split (List.cons_ne_nil _ _)
    obtain rfl := arrives.unique before
    exact after.entry first.named
  by_cases last : names = []
  · subst last
    have arrives_next := ((locate_join_iff path (List.cons_ne_nil _ _) plain).mp located).2
    exact ⟨target, ⟨by rwa [child_eq_join], entry_of target arrives_next⟩, .inl ⟨rfl, rfl⟩⟩
  · obtain ⟨usable, arrives_target⟩ := (locate_join_iff path (List.cons_ne_nil _ _) plain).mp located
    rw [FilePath.join_cons path last plain] at usable arrives_target
    have journey := (arrives_join_iff _ last rest).mp arrives_target
    obtain ⟨next, left, before, after⟩ := journey.split last
    obtain ⟨step, others, rfl⟩ := List.exists_cons_of_ne_nil last
    have child_usable : IsUsable (path.child name) := by
      refine FilePath.isUsable_of_join _ (FilePath.ofNames_isAbsolute last rest) ?_ usable
      rw [child_eq_join]
      exact FilePath.join_text_ne path (List.cons_ne_nil _ _) alone
    rw [child_eq_join] at before child_usable
    refine ⟨next, ⟨?_, entry_of next before⟩, .inr ⟨last, after.directory⟩⟩
    rw [child_eq_join]
    exact (locate_join_iff path (List.cons_ne_nil _ _) alone).mpr ⟨child_usable, before⟩

/-! ## What is left of a walk -/

/-- Locations that are not those of directories a walk is inside of. -/
def unentered (tree : FileTree) (inside : List Location) : Finset Location :=
  insert [] tree.entries.keys.toFinset \ inside.toFinset

/-- Locations of entries below a location. -/
def under (tree : FileTree) (location : Location) : Finset Location :=
  tree.entries.keys.toFinset.filter fun key => location <+: key ∧ key ≠ location

/-- A bound on the steps that a walk can go down, when it is inside of directories and comes to one
of them. -/
def reserve (tree : FileTree) (inside : List Location) (location : Location) : Nat :=
  (tree.unentered inside).card * (tree.entries.size + 1) + (tree.under location).card

variable {inside : List Location} {name : String} {entry : Entry}

theorem mem_keys_of_lookup? (found : tree.lookup? location = some entry) (below : location ≠ []) :
    location ∈ tree.entries.keys := by
  rw [lookup?, if_neg below] at found
  exact OrderedMap.mem_keys_of_find? found

theorem card_keys_le (tree : FileTree) : tree.entries.keys.toFinset.card ≤ tree.entries.size := by
  have bound := tree.entries.keys.toFinset_card_le
  rwa [OrderedMap.keys, List.length_map] at bound

theorem card_under_le (tree : FileTree) (location : Location) :
    (tree.under location).card ≤ tree.entries.size :=
  (Finset.card_filter_le _ _).trans tree.card_keys_le

theorem card_under_lt (found : tree.lookup? (location ++ [name]) = some entry) :
    (tree.under (location ++ [name])).card < (tree.under location).card := by
  have longer : location ++ [name] ≠ location := by simp
  refine Finset.card_lt_card (Finset.ssubset_iff_of_subset ?_ |>.mpr ⟨location ++ [name], ?_, ?_⟩)
  · intro key member
    obtain ⟨listed, below, -⟩ := Finset.mem_filter.mp member
    have above := (List.prefix_append location [name]).trans below
    refine Finset.mem_filter.mpr ⟨listed, above, ?_⟩
    rintro rfl
    exact longer (below.eq_of_length_le (by simp))
  · refine Finset.mem_filter.mpr ⟨List.mem_toFinset.mpr ?_, List.prefix_append _ _, longer⟩
    exact mem_keys_of_lookup? found (by simp)
  · exact fun member => (Finset.mem_filter.mp member).2.2 rfl

theorem card_unentered_le (tree : FileTree) (inside : List Location) :
    (tree.unentered inside).card ≤ tree.entries.size + 1 := by
  refine (Finset.card_le_card Finset.sdiff_subset).trans ?_
  exact (Finset.card_insert_le _ _).trans (Nat.succ_le_succ tree.card_keys_le)

theorem unentered_cons_subset (tree : FileTree) (inside : List Location) (location : Location) :
    tree.unentered (location :: inside) ⊆ tree.unentered inside := by
  refine Finset.sdiff_subset_sdiff (Finset.Subset.refl _) ?_
  rw [List.toFinset_cons]
  exact Finset.subset_insert _ _

theorem card_unentered_lt (found : tree.lookup? location = some entry)
    (outside : location ∉ inside) :
    (tree.unentered (location :: inside)).card < (tree.unentered inside).card := by
  refine Finset.card_lt_card (Finset.ssubset_iff_of_subset
    (tree.unentered_cons_subset inside location) |>.mpr ⟨location, ?_, ?_⟩)
  · refine Finset.mem_sdiff.mpr ⟨?_, by simpa using outside⟩
    by_cases root : location = []
    · exact Finset.mem_insert.mpr (.inl root)
    · exact Finset.mem_insert_of_mem (List.mem_toFinset.mpr (mem_keys_of_lookup? found root))
  · exact fun member => (Finset.mem_sdiff.mp member).2 (by simp)

/-- A plain step leaves fewer entries below. -/
theorem reserve_child_lt (found : tree.lookup? (location ++ [name]) = some entry) :
    tree.reserve ((location ++ [name]) :: inside) (location ++ [name]) <
      tree.reserve inside location := by
  have fewer := card_under_lt found
  have kept := Finset.card_le_card (tree.unentered_cons_subset inside (location ++ [name]))
  have scaled := Nat.mul_le_mul_right (tree.entries.size + 1) kept
  rw [reserve, reserve]
  omega

/-- A link leads to a directory that the walk is not inside of. -/
theorem reserve_link_lt (found : tree.lookup? target = some entry) (outside : target ∉ inside) :
    tree.reserve (target :: inside) target < tree.reserve inside location := by
  have fewer : (tree.unentered (target :: inside)).card + 1 ≤ (tree.unentered inside).card :=
    card_unentered_lt found outside
  have scaled := Nat.mul_le_mul_right (tree.entries.size + 1) fewer
  have below := tree.card_under_le target
  rw [Nat.add_mul, Nat.one_mul] at scaled
  rw [reserve, reserve]
  omega

theorem reserve_lt_walkDepth (tree : FileTree) (inside : List Location) (location : Location) :
    tree.reserve inside location + 1 < tree.walkDepth := by
  have scaled := Nat.mul_le_mul_right (tree.entries.size + 1) (tree.card_unentered_le inside)
  have below := tree.card_under_le location
  have expanded : (tree.entries.size + 2) * (tree.entries.size + 2) =
      (tree.entries.size + 1) * (tree.entries.size + 1) + (2 * tree.entries.size + 3) := by ring
  rw [reserve, walkDepth, expanded]
  omega

/-! ## Visits -/

namespace Visit

theorem of_andThen {first next : Visit} (finished : (first.andThen next).stopped = none) :
    first.stopped = none ∧ next.stopped = none ∧
      (first.andThen next).files = first.files ++ next.files := by
  rw [andThen] at finished ⊢
  cases ended : first.stopped with
  | some error => simp [ended] at finished
  | none =>
      simp only [ended] at finished
      exact ⟨rfl, finished, rfl⟩

theorem of_sequence {visits : List Visit} (finished : (sequence visits).stopped = none)
    {visit : Visit} (member : visit ∈ visits) :
    visit.stopped = none ∧ visit.files ⊆ (sequence visits).files := by
  induction visits with
  | nil => cases member
  | cons first rest induction =>
      change (first.andThen (sequence rest)).stopped = none at finished
      change _ ∧ _ ⊆ (first.andThen (sequence rest)).files
      obtain ⟨first_finished, rest_finished, files⟩ := of_andThen finished
      rw [files]
      rcases List.mem_cons.mp member with rfl | later
      · exact ⟨first_finished, List.subset_append_left _ _⟩
      · obtain ⟨visit_finished, included⟩ := induction rest_finished later
        exact ⟨visit_finished, List.Subset.trans included (List.subset_append_right _ _)⟩

end Visit

/-- Visits everything in a directory. -/
def visitBelow (tree : FileTree) (depth : Nat) (ancestors : List Ancestor) (directory : Location)
    (path : FilePath) : Visit :=
  .sequence ((tree.children directory).map fun name =>
    tree.visit depth ((directory, path) :: ancestors) (directory ++ [name]) (path.child name))

variable {depth : Nat} {ancestors : List Ancestor} {path : FilePath}

theorem visit_file {content : Bytes} (found : tree.lookup? location = some (.file content)) :
    tree.visit (depth + 1) ancestors location path = ⟨[path], none⟩ := by
  rw [visit, found]

theorem visit_directory (found : tree.lookup? location = some .directory) :
    tree.visit (depth + 1) ancestors location path =
      tree.visitBelow depth ancestors location path := by
  rw [visit, found]
  rfl

theorem visit_link_file {link : FilePath} {content : Bytes}
    (found : tree.lookup? location = some (.link link)) (located : tree.locate path = .ok target)
    (file : tree.lookup? target = some (.file content)) :
    tree.visit (depth + 1) ancestors location path = ⟨[path], none⟩ := by
  rw [visit, found]
  simp [located, file]

theorem visit_link_directory {link : FilePath}
    (found : tree.lookup? location = some (.link link)) (located : tree.locate path = .ok target)
    (directory : tree.lookup? target = some .directory)
    (finished : (tree.visit (depth + 1) ancestors location path).stopped = none) :
    target ∉ ancestors.map Prod.fst ∧
      tree.visit (depth + 1) ancestors location path =
        tree.visitBelow depth ancestors target path := by
  rw [visit, found] at finished ⊢
  simp only [located, directory, if_true] at finished ⊢
  cases above : ancestors.lookup target with
  | some known => simp [above] at finished
  | none =>
      refine ⟨fun member => ?_, rfl⟩
      obtain ⟨ancestor, listed, same⟩ := List.mem_map.mp member
      have different := List.lookup_eq_none_iff.mp above ancestor listed
      simp [same] at different

theorem mem_children (found : tree.lookup? (location ++ [name]) = some entry) :
    name ∈ tree.children location := by
  refine List.mem_filterMap.mpr ⟨location ++ [name], mem_keys_of_lookup? found (by simp), ?_⟩
  simp

/-! ## Going down -/

theorem visit_target {content : Bytes} {next : Location}
    (passes : tree.Passes path location name next)
    (file : tree.lookup? next = some (.file content)) :
    tree.visit (depth + 1) ancestors (location ++ [name]) (path.child name) =
      ⟨[path.child name], none⟩ := by
  obtain ⟨located, entry, found, direct⟩ := passes
  cases entry with
  | file content => exact visit_file found
  | directory =>
      obtain rfl := direct (by simp)
      cases found.symm.trans file
  | link link => exact visit_link_file found located file

/-- A visit of an entry that leads to a directory visits what is in it, and less is left. -/
theorem visit_passes {next : Location} (passes : tree.Passes path location name next)
    (directory : tree.lookup? next = some .directory)
    (finished : (tree.visit (depth + 1) ancestors (location ++ [name])
      (path.child name)).stopped = none)
    (within : ancestors.map Prod.fst = location :: inside) :
    tree.reserve (next :: location :: inside) next < tree.reserve (location :: inside) location ∧
      tree.visit (depth + 1) ancestors (location ++ [name]) (path.child name) =
        tree.visitBelow depth ancestors next (path.child name) := by
  obtain ⟨located, entry, found, direct⟩ := passes
  cases entry with
  | file content =>
      obtain rfl := direct (by simp)
      cases found.symm.trans directory
  | directory =>
      obtain rfl := direct (by simp)
      exact ⟨reserve_child_lt found, visit_directory found⟩
  | link link =>
      obtain ⟨outside, same⟩ := visit_link_directory found located directory finished
      rw [within] at outside
      exact ⟨reserve_link_lt directory outside, same⟩

/-- A walk inside of a directory meets every file that names below the directory lead to. -/
theorem mem_files_visitBelow {names : List String} (some_name : names ≠ [])
    (plain : ∀ other ∈ names, FilePath.IsPlain other) (arrives : tree.Arrives path location)
    (located : tree.locate (path.join (.ofNames names)) = .ok target) {content : Bytes}
    (file : tree.lookup? target = some (.file content))
    (enough : tree.reserve (location :: ancestors.map Prod.fst) location < depth)
    (finished : (tree.visitBelow depth ancestors location path).stopped = none) :
    path.join (.ofNames names) ∈ (tree.visitBelow depth ancestors location path).files := by
  -- The reserve of the directory bounds the depth that is left, so the names cannot run out of it.
  induction names generalizing path location ancestors depth with
  | nil => exact (some_name rfl).elim
  | cons name rest induction =>
      obtain ⟨depth, rfl⟩ := Nat.exists_eq_add_one_of_ne_zero (Nat.ne_zero_of_lt enough)
      obtain ⟨next, passes, onward⟩ := passes_of_locate plain arrives located
      obtain ⟨entry, found, -⟩ := passes.entry
      obtain ⟨visit_finished, included⟩ :=
        Visit.of_sequence finished (List.mem_map_of_mem (mem_children found))
      refine included ?_
      rcases onward with ⟨rfl, rfl⟩ | ⟨more, directory⟩
      · rw [visit_target passes file, ← child_eq_join]
        exact List.mem_singleton_self _
      · obtain ⟨less, same⟩ := visit_passes passes directory visit_finished (List.map_cons ..)
        rw [same] at visit_finished ⊢
        rw [FilePath.join_cons path more plain] at located ⊢
        have arrives_next := arrives_of_locate passes.located
        refine induction more (List.forall_mem_cons.mp plain).2 arrives_next located ?_
          visit_finished
        simp only [List.map_cons]
        omega

/-- A walk that ends with no error meets every file that names below its root lead to. -/
theorem mem_files_walk {names : List String} {root : FilePath} (some_name : names ≠ [])
    (plain : ∀ other ∈ names, FilePath.IsPlain other) (directory : tree.isDirectory root = true)
    (file : tree.isFile (root.join (.ofNames names)) = true)
    (finished : (tree.walk root).stopped = none) :
    root.join (.ofNames names) ∈ (tree.walk root).files := by
  obtain ⟨target, located, content, found⟩ := (tree.isFile_iff _).mp file
  rw [isDirectory, find?] at directory
  rw [walk] at finished ⊢
  cases reached : tree.locate root with
  | error cause => simp [reached] at directory
  | ok location =>
      simp only [reached, beq_iff_eq] at directory finished ⊢
      have bound := tree.reserve_lt_walkDepth [location] location
      obtain ⟨depth, depth_eq⟩ := Nat.exists_eq_add_one_of_ne_zero (Nat.ne_zero_of_lt bound)
      rw [depth_eq] at bound finished ⊢
      rw [visit_directory directory] at finished ⊢
      exact mem_files_visitBelow some_name plain (arrives_of_locate reached) located found
        (Nat.lt_of_succ_lt_succ bound) finished

end FileTree
end ClassEnhancement
