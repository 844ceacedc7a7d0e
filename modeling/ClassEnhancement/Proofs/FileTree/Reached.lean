import ClassEnhancement.Proofs.FileTree.Canonical

/-!
# What a walk reaches

In a tree that a file system can hold, a walk meets nothing but regular files that names below its
root lead to, and meets none of them twice.  A walk that ends with no error meets them all.
-/

namespace ClassEnhancement
namespace FileTree

/-- A tree that a file system can hold: its working directory can be reached, and the names in it
can be spelled in a path. -/
structure IsSound (tree : FileTree) : Prop where
  /-- Relative paths start at a location that can be reached. -/
  grounded : tree.IsGrounded
  /-- Names stand for themselves. -/
  plain : ∀ location ∈ tree.entries.keys, ∀ name ∈ location, FilePath.IsPlain name
  /-- No name holds a null character. -/
  unterminated : ∀ location ∈ tree.entries.keys, ∀ name ∈ location, '\x00' ∉ name.toList

/-- The files that a scan of a root meets; a root that is no directory holds nothing. -/
def reached (tree : FileTree) (root : FilePath) : List FilePath :=
  if tree.isDirectory root then (tree.walk root).files else []

/-- Names that lead from a path to a regular file, along links too. -/
structure LeadsTo (tree : FileTree) (path : FilePath) (names : List String) : Prop where
  some_name : names ≠ []
  plain : ∀ name ∈ names, FilePath.IsPlain name
  file : tree.isFile (path.join (.ofNames names)) = true

/-- A path of a regular file below a path. -/
def IsBelow (tree : FileTree) (path file : FilePath) : Prop :=
  ∃ names, tree.LeadsTo path names ∧ file = path.join (.ofNames names)

variable {tree : FileTree} {location target : Location} {path root file : FilePath}
  {name : String} {entry : Entry} {links : Nat} {steps : List String}

/-! ## Where paths end -/

/-- Something other than a link stands at a location. -/
def Stands (tree : FileTree) (location : Location) : Prop :=
  ∃ entry, tree.lookup? location = some entry ∧ ∀ link, entry ≠ .link link

/-- Steps that made progress have come to an entry that is no link. -/
def Progress.Stands (tree : FileTree) : Progress → Prop
  | .arrived (.present location) => tree.Stands location
  | .arrived (.vacant _ _) => True
  | .detour location _ => tree.Stands location

theorem Stands.of_directory (directory : tree.lookup? location = some .directory) :
    tree.Stands location := ⟨_, directory, nofun⟩

theorem IsReachable.lookup?_dropLast (reachable : tree.IsReachable location) :
    tree.lookup? location.dropLast = some .directory := by
  rcases List.eq_nil_or_concat location with rfl | ⟨front, last, rfl⟩
  · rfl
  · rw [List.concat_eq_append] at reachable ⊢
    rw [List.dropLast_concat]
    exact reachable.above rfl

theorem Course.stands {progress : Progress} (course : tree.Course location steps progress)
    (reachable : tree.IsReachable location) (clean : ∀ step ∈ steps, IsStep step)
    (stands : tree.Stands location) : progress.Stands tree := by
  induction course with
  | arrive => exact stands
  | stay _ _ hypothesis =>
      exact hypothesis reachable (fun step member => clean step (List.mem_cons_of_mem _ member))
        stands
  | leave _ _ hypothesis =>
      exact hypothesis reachable.dropLast
        (fun step member => clean step (List.mem_cons_of_mem _ member))
        (.of_directory reachable.lookup?_dropLast)
  | enter directory named found unlinked _ hypothesis =>
      obtain ⟨some_text, unseparated⟩ := clean _ List.mem_cons_self
      exact hypothesis (reachable.child directory ⟨some_text, named, unseparated⟩)
        (fun step member => clean step (List.mem_cons_of_mem _ member)) ⟨_, found, unlinked⟩
  | divert directory _ _ _ =>
      rw [Progress.Stands, origin]
      split
      · exact .of_directory (lookup?_root tree)
      · exact .of_directory directory
  | miss => trivial

theorem Journey.stands (journey : tree.Journey links location steps (.present target))
    (reachable : tree.IsReachable location) (clean : ∀ step ∈ steps, IsStep step)
    (stands : tree.Stands location) : tree.Stands target := by
  generalize reached : Destination.present target = destination at journey
  induction journey with
  | arrive course =>
      subst reached
      exact course.stands reachable clean stands
  | detour course _ hypothesis =>
      obtain ⟨onward, clean_onward⟩ := course.isReachable reachable clean
      exact hypothesis onward clean_onward (course.stands reachable clean stands) reached

/-- A path below a path leads to a file or to a directory. -/
theorem stands_of_locate_child (sound : tree.IsSound) (plain : FilePath.IsPlain name)
    (located : tree.locate (path.child name) = .ok location) : tree.Stands location := by
  have journey := (resolve_eq_ok_iff.mp (locate_eq_ok_iff.mp located)).2
  have some_step : FileTree.steps (path.child name) ≠ [] := by
    rw [child_eq_join, FilePath.steps_join path (List.cons_ne_nil _ _) (by simpa using plain)]
    simp
  exact journey.stands (isReachable_origin sound.grounded _) (fun _ => isStep_of_mem_steps)
    (.of_directory (journey.directory_of_ne_nil some_step))

/-! ## One step down -/

theorem mem_children_iff :
    name ∈ tree.children location ↔ location ++ [name] ∈ tree.entries.keys := by
  rw [children, List.mem_filterMap]
  constructor
  · rintro ⟨key, listed, last⟩
    split at last
    · next above =>
        obtain ⟨front, rfl⟩ := List.getLast?_eq_some_iff.mp last
        rw [List.dropLast_concat] at above
        exact above ▸ listed
    · cases last
  · intro listed
    exact ⟨_, listed, by simp⟩

theorem nodup_children (tree : FileTree) (location : Location) :
    (tree.children location).Nodup := by
  refine List.Nodup.filterMap (fun left right name first second => ?_) tree.entries.keys_nodup
  split at first
  · next above =>
      split at second
      · next above' =>
          obtain ⟨front, rfl⟩ := List.getLast?_eq_some_iff.mp first
          obtain ⟨front', rfl⟩ := List.getLast?_eq_some_iff.mp second
          rw [List.dropLast_concat] at above above'
          rw [above, above']
      · cases second
  · cases first

theorem exists_entry_of_child (listed : name ∈ tree.children location) :
    ∃ entry, tree.lookup? (location ++ [name]) = some entry := by
  obtain ⟨⟨key, entry⟩, member, same⟩ := List.mem_map.mp (mem_children_iff.mp listed)
  obtain rfl : key = location ++ [name] := same
  exact ⟨entry, by simpa [lookup?] using OrderedMap.find?_of_mem member⟩

theorem IsSound.plain_child (sound : tree.IsSound) (listed : name ∈ tree.children location) :
    FilePath.IsPlain name :=
  sound.plain _ (mem_children_iff.mp listed) name (by simp)

theorem IsSound.isUsable_child (sound : tree.IsSound) (listed : name ∈ tree.children location)
    (usable : IsUsable path) : IsUsable (path.child name) := by
  have plain := sound.plain_child listed
  have alone : ∀ other ∈ [name], FilePath.IsPlain other := by simpa using plain
  have unterminated := sound.unterminated _ (mem_children_iff.mp listed) name (by simp)
  rw [child_eq_join]
  refine ⟨?_, FilePath.join_text_ne path (List.cons_ne_nil _ _) alone⟩
  have spelled : (FilePath.ofNames [name]).text = name := by
    rw [FilePath.ofNames, String.intercalate_singleton]
  cases FilePath.joins_join path (FilePath.ofNames_isAbsolute (List.cons_ne_nil _ _) alone) with
  | alone empty same =>
      rw [same, spelled]
      exact unterminated
  | after base text split =>
      rw [split, spelled]
      have free := usable.1
      rw [text] at free
      simp_all
  | below some_text split =>
      rw [split, spelled]
      have free := usable.1
      simp_all

/-- A path of a directory leads on to the entries of the directory. -/
theorem locate_child (sound : tree.IsSound) (located : tree.locate path = .ok location)
    (directory : tree.lookup? location = some .directory) (listed : name ∈ tree.children location)
    (found : tree.lookup? (location ++ [name]) = some entry)
    (unlinked : ∀ link, entry ≠ .link link) :
    tree.locate (path.child name) = .ok (location ++ [name]) := by
  have plain := sound.plain_child listed
  have alone : ∀ other ∈ [name], FilePath.IsPlain other := by simpa using plain
  have usable := (resolve_eq_ok_iff.mp (locate_eq_ok_iff.mp located)).1
  have usable_child := sound.isUsable_child listed usable
  rw [child_eq_join] at usable_child ⊢
  rw [locate_join_iff path (List.cons_ne_nil _ _) alone,
    arrives_join_iff path (List.cons_ne_nil _ _) alone]
  exact ⟨usable_child, (arrives_of_locate located).append
    (.enter directory plain.named found unlinked (.arrive _))⟩

/-! ## Routes of a walk -/

/-- Files of a walk with the names that lead to them, none listed twice. -/
structure Traces (tree : FileTree) (path : FilePath) (files : List FilePath)
    (routes : List (List String)) : Prop where
  /-- Names spell the files. -/
  spelled : files = routes.map fun names => path.join (.ofNames names)
  /-- No names are listed twice. -/
  distinct : routes.Nodup
  /-- All of them lead to files. -/
  leads : ∀ names ∈ routes, tree.LeadsTo path names

namespace Traces

variable {files others : List FilePath} {routes more : List (List String)}

theorem nothing (tree : FileTree) (path : FilePath) : tree.Traces path [] [] :=
  ⟨rfl, .nil, nofun⟩

theorem append (traces : tree.Traces path files routes) (traces' : tree.Traces path others more)
    (apart : routes.Disjoint more) : tree.Traces path (files ++ others) (routes ++ more) where
  spelled := by rw [traces.spelled, traces'.spelled, List.map_append]
  distinct := traces.distinct.append traces'.distinct apart
  leads names member := (List.mem_append.mp member).elim (traces.leads names) (traces'.leads names)

theorem single (plain : FilePath.IsPlain name) (file : tree.isFile (path.child name) = true) :
    tree.Traces path [path.child name] [[name]] where
  spelled := by simp [child_eq_join]
  distinct := List.nodup_singleton _
  leads names member := by
    obtain rfl := List.mem_singleton.mp member
    exact ⟨List.cons_ne_nil _ _, by simpa using plain, child_eq_join path name ▸ file⟩

/-- What is traced below an entry is traced from above it. -/
theorem below (plain : FilePath.IsPlain name) (traces : tree.Traces (path.child name) files routes) :
    tree.Traces path files (routes.map (name :: ·)) := by
  have joined : ∀ names ∈ routes, path.join (.ofNames (name :: names)) =
      (path.child name).join (.ofNames names) := fun names member =>
    FilePath.join_cons path (traces.leads names member).some_name
      (List.forall_mem_cons.mpr ⟨plain, (traces.leads names member).plain⟩)
  refine ⟨?_, traces.distinct.map fun _ _ => List.tail_eq_of_cons_eq, ?_⟩
  · rw [traces.spelled, List.map_map]
    exact List.map_congr_left fun names member => (joined names member).symm
  · intro names member
    obtain ⟨rest, listed, rfl⟩ := List.mem_map.mp member
    obtain ⟨some_name, plain_rest, file⟩ := traces.leads rest listed
    exact ⟨List.cons_ne_nil _ _, List.forall_mem_cons.mpr ⟨plain, plain_rest⟩,
      joined rest listed ▸ file⟩

/-- Different names are different paths, whatever their spelling. -/
theorem nodup_components (traces : tree.Traces path files routes) :
    (files.map FilePath.components).Nodup := by
  rw [traces.spelled, List.map_map]
  refine List.Nodup.map_on (fun left listed right listed' same => ?_) traces.distinct
  obtain ⟨some_left, plain_left, -⟩ := traces.leads left listed
  obtain ⟨some_right, plain_right, -⟩ := traces.leads right listed'
  simp only [Function.comp_apply, FilePath.components_join path some_left plain_left,
    FilePath.components_join path some_right plain_right, List.append_cancel_left_eq] at same
  exact List.map_injective_iff.mpr (fun _ _ => Component.name.inj) same

end Traces

/-- Visits of entries, each traced under its own name, are traced together. -/
theorem traces_sequence {names : List String} (distinct : names.Nodup) {visit : String → Visit}
    (traced : ∀ name ∈ names, ∃ routes, tree.Traces path (visit name).files routes ∧
      ∀ route ∈ routes, route.head? = some name) :
    ∃ routes, tree.Traces path (Visit.sequence (names.map visit)).files routes ∧
      ∀ route ∈ routes, ∃ name ∈ names, route.head? = some name := by
  induction names with
  | nil => exact ⟨[], .nothing tree path, nofun⟩
  | cons name rest hypothesis =>
      obtain ⟨fresh, distinct⟩ := List.nodup_cons.mp distinct
      obtain ⟨routes, traces, headed⟩ := traced name List.mem_cons_self
      obtain ⟨more, traces_rest, headed_rest⟩ :=
        hypothesis distinct fun other member => traced other (List.mem_cons_of_mem _ member)
      change ∃ routes, tree.Traces path
        ((visit name).andThen (Visit.sequence (rest.map visit))).files routes ∧ _
      rw [Visit.andThen]
      split
      · exact ⟨routes, traces, fun route member =>
          ⟨name, List.mem_cons_self, headed route member⟩⟩
      · refine ⟨routes ++ more, traces.append traces_rest ?_, ?_⟩
        · intro route early late
          obtain ⟨other, listed, other_head⟩ := headed_rest route late
          obtain rfl := Option.some.inj ((headed route early).symm.trans other_head)
          exact fresh listed
        · intro route member
          rcases List.mem_append.mp member with early | late
          · exact ⟨name, List.mem_cons_self, headed route early⟩
          · obtain ⟨other, listed, other_head⟩ := headed_rest route late
            exact ⟨other, List.mem_cons_of_mem _ listed, other_head⟩

/-- A visit of an entry is traced under the name of the entry, if visits of directories are. -/
theorem traces_visit {depth : Nat} {ancestors : List Ancestor} (sound : tree.IsSound)
    (located : tree.locate path = .ok location)
    (directory : tree.lookup? location = some .directory) (listed : name ∈ tree.children location)
    (below : ∀ {inner : Location}, tree.locate (path.child name) = .ok inner →
      tree.lookup? inner = some .directory →
      ∃ routes, tree.Traces (path.child name)
        (tree.visitBelow depth ancestors inner (path.child name)).files routes) :
    ∃ routes, tree.Traces path
        (tree.visit (depth + 1) ancestors (location ++ [name]) (path.child name)).files routes ∧
      ∀ route ∈ routes, route.head? = some name := by
  have plain := sound.plain_child listed
  have entered : ∀ {inner : Location}, tree.locate (path.child name) = .ok inner →
      tree.lookup? inner = some .directory →
      ∃ routes, tree.Traces path
          (tree.visitBelow depth ancestors inner (path.child name)).files routes ∧
        ∀ route ∈ routes, route.head? = some name := by
    intro inner located_inner inner_directory
    obtain ⟨routes, traces⟩ := below located_inner inner_directory
    refine ⟨_, traces.below plain, fun route member => ?_⟩
    obtain ⟨rest, -, rfl⟩ := List.mem_map.mp member
    rfl
  have met : tree.isFile (path.child name) = true →
      ∃ routes, tree.Traces path [path.child name] routes ∧
        ∀ route ∈ routes, route.head? = some name := fun file =>
    ⟨[[name]], .single plain file, by simp⟩
  have missed : ∃ routes, tree.Traces path [] routes ∧ ∀ route ∈ routes, route.head? = some name :=
    ⟨[], .nothing tree path, nofun⟩
  obtain ⟨entry, found⟩ := exists_entry_of_child listed
  cases entry with
  | file content =>
      rw [visit_file found]
      have located_file := locate_child sound located directory listed found nofun
      exact met ((tree.isFile_iff _).mpr ⟨_, located_file, content, found⟩)
  | directory =>
      rw [visit_directory found]
      exact entered (locate_child sound located directory listed found nofun) found
  | link link =>
      rw [visit, found]
      dsimp only
      split
      · exact missed
      next inner located_inner =>
      split
      · next inner_directory =>
          split
          · exact missed
          · exact entered located_inner inner_directory
      · next no_directory =>
          obtain ⟨entry, there, unlinked⟩ := stands_of_locate_child sound plain located_inner
          cases entry with
          | file content => exact met ((tree.isFile_iff _).mpr ⟨_, located_inner, content, there⟩)
          | directory => exact (no_directory there).elim
          | link link => exact (unlinked link rfl).elim

/-- What a walk meets inside of a directory is traced. -/
theorem traces_visitBelow (sound : tree.IsSound) (depth : Nat) (ancestors : List Ancestor)
    (located : tree.locate path = .ok location)
    (directory : tree.lookup? location = some .directory) :
    ∃ routes, tree.Traces path (tree.visitBelow depth ancestors location path).files routes := by
  induction depth generalizing path location ancestors with
  | zero =>
      have nothing : ∀ name ∈ tree.children location, ∃ routes,
          tree.Traces path (tree.visit 0 ((location, path) :: ancestors) (location ++ [name])
            (path.child name)).files routes ∧ ∀ route ∈ routes, route.head? = some name :=
        fun _ _ => ⟨[], .nothing tree path, nofun⟩
      obtain ⟨routes, traces, -⟩ := traces_sequence (tree.nodup_children location) nothing
      exact ⟨routes, traces⟩
  | succ depth hypothesis =>
      obtain ⟨routes, traces, -⟩ :=
        traces_sequence (tree.nodup_children location) fun name listed =>
          traces_visit sound located directory listed
            (hypothesis ((location, path) :: ancestors))
      exact ⟨routes, traces⟩

/-! ## Files below a root -/

theorem traces_reached (sound : tree.IsSound) (root : FilePath) :
    ∃ routes, tree.Traces root (tree.reached root) routes := by
  rw [reached]
  split
  · next is_directory =>
      obtain ⟨location, located, directory⟩ := isDirectory_iff.mp is_directory
      obtain ⟨depth, depth_eq⟩ := Nat.exists_eq_add_one_of_ne_zero
        (Nat.ne_zero_of_lt (tree.reserve_lt_walkDepth [] []))
      rw [walk, located, depth_eq]
      dsimp only
      rw [visit_directory directory]
      exact traces_visitBelow sound depth [] located directory
  · exact ⟨[], .nothing tree root⟩

/-- A walk meets no path twice, whatever its spelling. -/
theorem nodup_reached (sound : tree.IsSound) (root : FilePath) :
    ((tree.reached root).map FilePath.components).Nodup := by
  obtain ⟨routes, traces⟩ := traces_reached sound root
  exact traces.nodup_components

/-- A walk meets nothing but regular files below its root. -/
theorem isBelow_of_reached (sound : tree.IsSound) (met : file ∈ tree.reached root) :
    tree.IsBelow root file := by
  obtain ⟨routes, traces⟩ := traces_reached sound root
  rw [traces.spelled] at met
  obtain ⟨names, listed, rfl⟩ := List.mem_map.mp met
  exact ⟨names, traces.leads names listed, rfl⟩

/-- A walk that ends with no error meets the regular files below its root. -/
theorem mem_reached_iff (sound : tree.IsSound)
    (finished : tree.isDirectory root = true → (tree.walk root).stopped = none) :
    file ∈ tree.reached root ↔ tree.isDirectory root = true ∧ tree.IsBelow root file := by
  by_cases directory : tree.isDirectory root = true
  · rw [and_iff_right directory]
    constructor
    · exact isBelow_of_reached sound
    · rintro ⟨names, leads, rfl⟩
      rw [reached, if_pos directory]
      exact mem_files_walk leads.some_name leads.plain directory leads.file (finished directory)
  · simp [reached, directory]

end FileTree
end ClassEnhancement
