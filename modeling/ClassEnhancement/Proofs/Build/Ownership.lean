import ClassEnhancement.Build.Model
import ClassEnhancement.Proofs.Resolver.Itinerary
import ClassEnhancement.Proofs.Source.Accounting

/-!
# Modules own the sources of a project

A project is scanned at the content roots of its modules, and every module is laid out with both
output directories.  So a source that the index knows has an owner that can be searched, and since
libraries are scanned last, they declare no class of the project.
-/

namespace ClassEnhancement

open SourceIndex

/-! ## The owner of a file -/

namespace Project

/-- The last of the deepest owners. -/
def LastDeepest (owners : List (Nat × ProjectModule)) (best : Nat × ProjectModule) : Prop :=
  ∃ early late, owners = early ++ best :: late ∧
    (∀ other ∈ early, other.1 ≤ best.1) ∧ ∀ other ∈ late, other.1 < best.1

theorem LastDeepest.mem {owners : List (Nat × ProjectModule)} {best : Nat × ProjectModule}
    (deepest : LastDeepest owners best) : best ∈ owners := by
  obtain ⟨early, late, rfl, -, -⟩ := deepest
  exact List.mem_append_right _ List.mem_cons_self

theorem LastDeepest.le {owners : List (Nat × ProjectModule)} {best other : Nat × ProjectModule}
    (deepest : LastDeepest owners best) (member : other ∈ owners) : other.1 ≤ best.1 := by
  obtain ⟨early, late, rfl, before, after⟩ := deepest
  rcases List.mem_append.mp member with sooner | there
  · exact before other sooner
  · rcases List.mem_cons.mp there with rfl | later
    · exact Nat.le_refl _
    · exact (after other later).le

/-- The fold keeps the last of the deepest owners. -/
theorem lastDeepest_foldl (owners : List (Nat × ProjectModule)) :
    owners = [] ∧ owners.foldl deeper none = none ∨
      ∃ best, owners.foldl deeper none = some best ∧ LastDeepest owners best := by
  induction owners using List.reverseRecOn with
  | nil => exact .inl ⟨rfl, rfl⟩
  | append_singleton owners next hypothesis =>
      right
      rw [List.foldl_append, List.foldl_cons, List.foldl_nil]
      rcases hypothesis with ⟨rfl, none_yet⟩ | ⟨best, folded, deepest⟩
      · rw [none_yet]
        exact ⟨next, rfl, [], [], rfl, nofun, nofun⟩
      · rw [folded, deeper]
        split
        · next deep =>
            exact ⟨next, rfl, owners, [], rfl, fun other member => (deepest.le member).trans deep,
              nofun⟩
        · next shallow =>
            obtain ⟨early, late, rfl, before, after⟩ := deepest
            refine ⟨best, rfl, early, late ++ [next], by simp, before, fun other member => ?_⟩
            rcases List.mem_append.mp member with sooner | last
            · exact after other sooner
            · obtain rfl := List.mem_singleton.mp last
              exact Nat.lt_of_not_le shallow

/-- The modules with a content root around a file, with the depth of the deepest one. -/
def owners (project : Project) (file : FilePath) : List (Nat × ProjectModule) :=
  project.modules.filterMap fun owner => (owner.owningDepth? file).map fun depth => (depth, owner)

theorem mem_owners_iff {project : Project} {file : FilePath} {depth : Nat} {owner : ProjectModule} :
    (depth, owner) ∈ project.owners file ↔
      owner ∈ project.modules ∧ owner.owningDepth? file = some depth := by
  simp only [owners, List.mem_filterMap, Option.map_eq_some_iff, Prod.mk.injEq]
  constructor
  · rintro ⟨_, listed, _, deep, rfl, rfl⟩
    exact ⟨listed, deep⟩
  · rintro ⟨listed, deep⟩
    exact ⟨owner, listed, depth, deep, rfl, rfl⟩

/-- The module of a file is the last of its deepest owners. -/
theorem moduleFor?_cases (project : Project) (file : FilePath) :
    project.owners file = [] ∧ project.moduleFor? file = none ∨
      ∃ depth owner, project.moduleFor? file = some owner ∧
        LastDeepest (project.owners file) (depth, owner) := by
  rw [moduleFor?]
  rcases lastDeepest_foldl (project.owners file) with ⟨nobody, nothing⟩ | found
  · exact .inl ⟨nobody, congrArg (Option.map Prod.snd) nothing⟩
  · obtain ⟨⟨depth, owner⟩, folded, deepest⟩ := found
    exact .inr ⟨depth, owner, congrArg (Option.map Prod.snd) folded, deepest⟩

/-- A module with a content root that contains a file, and none of any module is deeper. -/
structure Owns (project : Project) (owner : ProjectModule) (root file : FilePath) : Prop where
  listed : owner ∈ project.modules
  rooted : root ∈ owner.contentRoots
  contains : file.StartsWith root
  deepest : ∀ other ∈ project.modules, ∀ content ∈ other.contentRoots, file.StartsWith content →
    content.depth ≤ root.depth

end Project

variable {file root : FilePath} {tree : FileTree}

/-- The depth of an owner is that of its deepest content root around the file. -/
theorem ProjectModule.owningDepth?_eq_some_iff {owner : ProjectModule} {depth : Nat} :
    owner.owningDepth? file = some depth ↔
      (∃ content ∈ owner.contentRoots, file.StartsWith content ∧ content.depth = depth) ∧
        ∀ content ∈ owner.contentRoots, file.StartsWith content → content.depth ≤ depth := by
  rw [owningDepth?, List.max?_eq_some_iff]
  simp only [List.mem_map, List.mem_filter, decide_eq_true_eq, and_assoc, forall_exists_index,
    and_imp]
  refine and_congr_right fun _ => ⟨fun bounded content rooted contains => ?_, ?_⟩
  · exact bounded _ content rooted contains rfl
  · rintro bounded _ content rooted contains rfl
    exact bounded content rooted contains

theorem ProjectModule.exists_owningDepth? {owner : ProjectModule}
    (rooted : root ∈ owner.contentRoots) (contains : file.StartsWith root) :
    ∃ depth, owner.owningDepth? file = some depth := by
  have around : root.depth ∈ (owner.contentRoots.filter fun content =>
      decide (file.StartsWith content)).map FilePath.depth :=
    List.mem_map_of_mem (List.mem_filter.mpr ⟨rooted, decide_eq_true contains⟩)
  rw [owningDepth?]
  exact Option.isSome_iff_exists.mp (List.isSome_max?_of_mem around)

theorem ProjectModule.exists_depth_le {owner : ProjectModule} (rooted : root ∈ owner.contentRoots)
    (contains : file.StartsWith root) :
    ∃ depth, owner.owningDepth? file = some depth ∧ root.depth ≤ depth := by
  obtain ⟨depth, deep⟩ := owner.exists_owningDepth? rooted contains
  exact ⟨depth, deep, (owningDepth?_eq_some_iff.mp deep).2 root rooted contains⟩

/-- A file inside of a content root has an owner. -/
theorem Project.exists_moduleFor? {project : Project} {owner : ProjectModule}
    (listed : owner ∈ project.modules) (rooted : root ∈ owner.contentRoots)
    (contains : file.StartsWith root) :
    ∃ best content, project.moduleFor? file = some best ∧ project.Owns best content file := by
  obtain ⟨depth, deep⟩ := owner.exists_owningDepth? rooted contains
  rcases project.moduleFor?_cases file with ⟨nobody, -⟩ | ⟨most, best, owned, deepest⟩
  · have some_owner := mem_owners_iff.mpr ⟨listed, deep⟩
    rw [nobody] at some_owner
    cases some_owner
  · obtain ⟨best_listed, most_deep⟩ := mem_owners_iff.mp deepest.mem
    obtain ⟨⟨content, rooted', contains', depth_eq⟩, -⟩ :=
      ProjectModule.owningDepth?_eq_some_iff.mp most_deep
    refine ⟨best, content, owned, best_listed, rooted', contains', ?_⟩
    intro rival rival_listed around rival_rooted rival_contains
    obtain ⟨rival_depth, rival_deep, within⟩ := rival.exists_depth_le rival_rooted rival_contains
    have bound := deepest.le (mem_owners_iff.mpr ⟨rival_listed, rival_deep⟩)
    rw [depth_eq]
    exact within.trans bound

theorem Project.mem_of_moduleFor? {project : Project} {owner : ProjectModule}
    (owned : project.moduleFor? file = some owner) : owner ∈ project.modules := by
  rcases project.moduleFor?_cases file with ⟨-, nothing⟩ | ⟨depth, best, found, deepest⟩
  · rw [nothing] at owned
    cases owned
  · obtain rfl := Option.some.inj (found.symm.trans owned)
    exact (mem_owners_iff.mp deepest.mem).1

/-! ## What is declared below a root -/

theorem SourceIndex.startsWith_of_declaredKey? {key : String}
    (named : declaredKey? root file = some key) : file.StartsWith root := by
  rw [declaredKey?, FilePath.componentsBelow?] at named
  by_contra apart
  simp [apart] at named

/-! ## Projects that were built -/

namespace ProjectConfig

variable {config : ProjectConfig} {project : Project}

/-- A built project has the modules of some directories, and their roots are scanned before the
libraries. -/
theorem exists_scans_of_buildProject (built : config.buildProject tree root = .ok project) :
    ∃ directories scans,
      project.modules = directories.map (fun directory =>
        config.layout.moduleIn (moduleName root directory) directory) ∧
      scans.map (fun scan => (scan.root, scan.origin)) = config.scanRoots root directories ∧
      Scanned tree scans project.index := by
  rw [buildProject] at built
  split at built
  · cases built
  · next directories _ =>
      split at built
      · cases built
      · next index scanned =>
          cases built
          obtain ⟨scans, spelled, ended⟩ := Scanned.nothing.append_of_scanAll scanned
          exact ⟨directories, scans, rfl, spelled, ended⟩

/-- What a project knows of the sources of its modules and of its libraries. -/
structure OwnsSources (config : ProjectConfig) (tree : FileTree) (root : FilePath)
    (project : Project) : Prop where
  /-- A source of the index is a source file inside of a content root of its owner, which has both
  output directories; no content root around the file is deeper. -/
  sources : ∀ declaration ∈ project.index.declarations, declaration.origin = .source →
    declares .source declaration.file = true ∧ ∃ owner content,
      project.moduleFor? declaration.file = some owner ∧
        project.Owns owner content declaration.file ∧
        owner.output.isSome = true ∧ owner.testOutput.isSome = true
  /-- A library class of the index lies in a library directory. -/
  libraries : ∀ declaration ∈ project.index.declarations, declaration.origin = .library →
    ∃ directory ∈ config.libraryDirectories, declaration.file.StartsWith (root.join directory)
  /-- A key that a file below a content root declares is a source, whatever libraries declare. -/
  first : ∀ owner ∈ project.modules, ∀ content ∈ owner.contentRoots,
    ∀ file ∈ tree.reached content, ∀ declaration,
      declarationOf? content .source file = some declaration →
      ∃ found, project.index.find? declaration.name = some found ∧
        found.name = declaration.name ∧ found.origin = .source
  /-- A class of a source that is not fresh is looked up in the two output directories of its owner
  and in the source file, and nowhere else. -/
  probes : ∀ layer classes classPath declaration,
    project.index.find? (Itinerary.keyOf classPath) = some declaration →
    declaration.origin = .source → classes.fileOf? (Resolution.dottedOf classPath) = none →
    ∃ owner output testOutput, project.moduleFor? declaration.file = some owner ∧
      owner.output = some output ∧ owner.testOutput = some testOutput ∧
      Itinerary.ofClass ⟨project, layer⟩ classes classPath =
        [⟨[], output.join (Resolution.relativeFileOf classPath)⟩,
          ⟨[], testOutput.join (Resolution.relativeFileOf classPath)⟩,
          ⟨[Itinerary.unfound owner classPath], declaration.file⟩]
  /-- A lookup warns of a class that no output directory of its module has, or of a class that is
  not found, and of no missing output directory. -/
  silent : ∀ layer retention classes later cache classPath,
    ∀ warning ∈ ((Resolver.retaining retention classes).resolve ⟨project, layer⟩ later cache
      classPath).warnings,
      (∃ owner ∈ project.modules, warning = Itinerary.unfound owner classPath) ∨
        ∃ visited, warning = Itinerary.complaint (Itinerary.keyOf classPath) visited

theorem mem_scanRoots_iff {directories : List FilePath} {path : FilePath} {origin : Origin} :
    (path, origin) ∈ config.scanRoots root directories ↔
      origin = .source ∧ (∃ directory ∈ directories, path ∈ config.layout.rootsIn directory) ∨
        origin = .library ∧ ∃ directory ∈ config.libraryDirectories, root.join directory = path := by
  simp only [scanRoots, List.mem_append, List.mem_flatMap, List.mem_map, Prod.mk.injEq]
  constructor
  · rintro (⟨directory, listed, _, rooted, rfl, rfl⟩ | ⟨directory, listed, rfl, rfl⟩)
    · exact .inl ⟨rfl, directory, listed, rooted⟩
    · exact .inr ⟨rfl, directory, listed, rfl⟩
  · rintro (⟨rfl, directory, listed, rooted⟩ | ⟨rfl, directory, listed, rfl⟩)
    · exact .inl ⟨directory, listed, path, rooted, rfl, rfl⟩
    · exact .inr ⟨directory, listed, rfl, rfl⟩

/-- Both output directories of a module of a built project are known. -/
theorem outputs_of_buildProject (built : config.buildProject tree root = .ok project)
    {owner : ProjectModule} (listed : owner ∈ project.modules) :
    ∃ output testOutput, owner.output = some output ∧ owner.testOutput = some testOutput := by
  obtain ⟨directories, scans, modules, -, -⟩ := exists_scans_of_buildProject built
  rw [modules] at listed
  obtain ⟨directory, -, rfl⟩ := List.mem_map.mp listed
  exact ⟨_, _, rfl, rfl⟩

/-- A declaration of the index was declared by a file below the root of a scan of its origin. -/
theorem exists_root_of_buildProject (built : config.buildProject tree root = .ok project)
    {declaration : Declaration} (declared : declaration ∈ project.index.declarations) :
    ∃ path, declaration.file.StartsWith path ∧
      declares declaration.origin declaration.file = true ∧
      (declaration.origin = .source ∧
          (∃ owner ∈ project.modules, path ∈ owner.contentRoots) ∨
        declaration.origin = .library ∧
          ∃ directory ∈ config.libraryDirectories, root.join directory = path) := by
  obtain ⟨directories, scans, modules, spelled, scanned⟩ := exists_scans_of_buildProject built
  obtain ⟨scan, member, file, -, declares⟩ := scanned.exists_scan declared
  obtain ⟨kind, named, rfl, origin_eq⟩ := declarationOf?_eq_some_iff.mp declares
  have scanned_root : (scan.root, scan.origin) ∈ config.scanRoots root directories :=
    spelled ▸ List.mem_map_of_mem member
  rw [← origin_eq] at kind scanned_root
  refine ⟨scan.root, startsWith_of_declaredKey? named, kind, ?_⟩
  rcases mem_scanRoots_iff.mp scanned_root with ⟨source, directory, listed, rooted⟩ | library
  · refine .inl ⟨source, config.layout.moduleIn (moduleName root directory) directory, ?_, rooted⟩
    rw [modules]
    exact List.mem_map_of_mem listed
  · exact .inr library

/-- The first declaration of a key that a file below a content root declares is a source. -/
theorem find?_source_of_buildProject (built : config.buildProject tree root = .ok project)
    {owner : ProjectModule} (listed : owner ∈ project.modules) {content : FilePath}
    (rooted : content ∈ owner.contentRoots) (reached : file ∈ tree.reached content)
    {declaration : Declaration} (declares : declarationOf? content .source file = some declaration) :
    ∃ found, project.index.find? declaration.name = some found ∧
      found.name = declaration.name ∧ found.origin = .source := by
  obtain ⟨directories, scans, modules, spelled, scanned⟩ := exists_scans_of_buildProject built
  obtain ⟨sources, libraries, rfl, sources_eq, -⟩ := List.map_eq_append_iff.mp spelled
  have source_scan : ∀ scan ∈ sources, scan.origin = .source := by
    intro scan member
    have paired : (scan.root, scan.origin) ∈ _ := sources_eq ▸ List.mem_map_of_mem member
    simp only [List.mem_flatMap, List.mem_map, Prod.mk.injEq] at paired
    obtain ⟨-, -, -, -, -, source⟩ := paired
    exact source.symm
  have offered : declaration ∈ history tree sources := by
    rw [modules] at listed
    obtain ⟨directory, chosen, rfl⟩ := List.mem_map.mp listed
    have paired : (content, Origin.source) ∈
        sources.map fun scan => (scan.root, scan.origin) := by
      rw [sources_eq]
      exact List.mem_flatMap.mpr ⟨directory, chosen, List.mem_map_of_mem rooted⟩
    obtain ⟨scan, member, same⟩ := List.mem_map.mp paired
    obtain ⟨rfl, source⟩ := Prod.mk.inj same
    exact List.mem_flatMap.mpr
      ⟨scan, member, List.mem_filterMap.mpr ⟨file, reached, by rw [source, declares]⟩⟩
  obtain ⟨found, first⟩ :=
    Option.isSome_iff_exists.mp (mem_names_iff.mp (List.mem_map_of_mem offered))
  refine ⟨found, scanned.find?_eq (firstNamed?_history_append first libraries),
    by simpa using List.find?_some first, ?_⟩
  obtain ⟨scan, member, there⟩ := List.mem_flatMap.mp (List.mem_of_find?_eq_some first)
  obtain ⟨other, -, declares'⟩ := List.mem_filterMap.mp there
  obtain ⟨-, -, -, origin_eq⟩ := declarationOf?_eq_some_iff.mp declares'
  rw [origin_eq, source_scan scan member]

/-- Every output directory that a lookup is due to search is known. -/
theorem warnings_ofClass (built : config.buildProject tree root = .ok project)
    (layer : FileAccess) (classes : CompiledSet) (classPath : String) :
    ∀ stop ∈ Itinerary.ofClass ⟨project, layer⟩ classes classPath, ∀ warning ∈ stop.warnings,
      ∃ owner ∈ project.modules, warning = Itinerary.unfound owner classPath := by
  intro stop member warning due
  simp only [Itinerary.ofClass] at member
  split at member
  · obtain rfl := List.mem_singleton.mp member
    cases due
  split at member
  · cases member
  · next declaration _ =>
      split at member
      · next owner _ owned =>
          have listed := Project.mem_of_moduleFor? owned
          obtain ⟨output, testOutput, output_eq, testOutput_eq⟩ :=
            outputs_of_buildProject built listed
          simp only [Itinerary.ofOwner, output_eq, testOutput_eq, List.mem_cons, List.not_mem_nil,
            or_false] at member
          rcases member with rfl | rfl | rfl
          · cases due
          · cases due
          · exact ⟨owner, listed, List.mem_singleton.mp due⟩
      · obtain rfl := List.mem_singleton.mp member
        cases due

/-- A built project owns its sources. -/
theorem ownsSources_of_buildProject (built : config.buildProject tree root = .ok project) :
    config.OwnsSources tree root project := by
  have sources : ∀ declaration ∈ project.index.declarations, declaration.origin = .source →
      declares .source declaration.file = true ∧ ∃ owner content,
        project.moduleFor? declaration.file = some owner ∧
          project.Owns owner content declaration.file := by
    intro declaration declared source
    obtain ⟨path, contains, kind, below⟩ := exists_root_of_buildProject built declared
    rcases below with ⟨-, owner, listed, rooted⟩ | ⟨library, -⟩
    · exact ⟨source ▸ kind, Project.exists_moduleFor? listed rooted contains⟩
    · cases source.symm.trans library
  refine
    { sources := fun declaration declared source => ?_
      libraries := fun declaration declared library => ?_
      first := fun owner listed content rooted file reached declaration =>
        find?_source_of_buildProject built listed rooted reached
      probes := fun layer classes classPath declaration found source stale => ?_
      silent := fun layer retention classes later cache classPath warning given => ?_ }
  · obtain ⟨kind, owner, content, owned, owns⟩ := sources declaration declared source
    obtain ⟨output, testOutput, output_eq, testOutput_eq⟩ :=
      outputs_of_buildProject built owns.listed
    exact ⟨kind, owner, content, owned, owns, by rw [output_eq]; rfl, by rw [testOutput_eq]; rfl⟩
  · obtain ⟨path, contains, -, below⟩ := exists_root_of_buildProject built declared
    rcases below with ⟨source, -⟩ | ⟨-, directory, listed, rfl⟩
    · cases source.symm.trans library
    · exact ⟨directory, listed, contains⟩
  · have declared : declaration ∈ project.index.declarations :=
      List.mem_of_find?_eq_some (find?_eq_some_iff.mp found).first
    obtain ⟨-, owner, content, owned, owns⟩ := sources declaration declared source
    obtain ⟨output, testOutput, output_eq, testOutput_eq⟩ :=
      outputs_of_buildProject built owns.listed
    refine ⟨owner, output, testOutput, owned, output_eq, testOutput_eq, ?_⟩
    simp only [Itinerary.ofClass, stale, found, source, owned, Itinerary.ofOwner, output_eq,
      testOutput_eq]
  · cases recalled : retention.recalled? cache classPath with
    | some bytes =>
        simp only [Resolver.resolve, Resolver.retaining, recalled] at given
        cases given
    | none =>
        rw [(Resolver.resolve_follows retention classes ⟨project, layer⟩ later cache classPath
          recalled).warnings] at given
        rcases List.mem_append.mp given with stopped | complains
        · obtain ⟨stop, visited, due⟩ := List.mem_flatMap.mp stopped
          exact .inl (warnings_ofClass built layer classes classPath stop
            (Itinerary.visited_subset _ visited) warning due)
        · split at complains
          · exact .inr ⟨_, List.mem_singleton.mp complains⟩
          · cases complains

/-! ## A module inside of another one -/

/-- A module inside of the source root of the project, and a library there too. -/
def nestedConfig : ProjectConfig :=
  { standard with
    modules := [⟨"."⟩, ⟨"src/sub"⟩]
    libraryDirectories := [⟨"src/lib"⟩]
    layout := ⟨[⟨"src"⟩], [], ⟨"out"⟩, ⟨"test-out"⟩⟩ }

/-- A class of the project, which the library has too, and one of the inner module. -/
def nestedTree : FileTree :=
  ((((FileTree.empty ["shop", "src", "a"]).put ["shop", "src", "a", "A.java"] (.file [])).put
    ["shop", "src", "sub"] .directory).put ["shop", "src", "sub", "src"] .directory).put
    ["shop", "src", "sub", "src", "B.java"] (.file []) |>.put ["shop", "src", "lib"] .directory |>.put
    ["shop", "src", "lib", "a"] .directory |>.put ["shop", "src", "lib", "a", "A.class"] (.file [])
    |>.put ["shop", "src", "lib", "L.class"] (.file [])

/-- The project with both modules. -/
def nestedProject : Project where
  name := "shop"
  base := ⟨"/shop"⟩
  modules :=
    [nestedConfig.layout.moduleIn "shop" ⟨"/shop/."⟩,
      nestedConfig.layout.moduleIn "sub" ⟨"/shop/src/sub"⟩]
  index :=
    { declarations :=
        [⟨"a.A", ⟨"/shop/./src/a/A.java"⟩, .source⟩,
          ⟨"sub.src.B", ⟨"/shop/./src/sub/src/B.java"⟩, .source⟩,
          ⟨"B", ⟨"/shop/src/sub/src/B.java"⟩, .source⟩, ⟨"L", ⟨"/shop/src/lib/L.class"⟩, .library⟩]
      files :=
        [⟨"/shop/./src/a/A.java"⟩, ⟨"/shop/./src/sub/src/B.java"⟩,
          ⟨"/shop/./src/lib/a/A.class"⟩, ⟨"/shop/./src/lib/L.class"⟩] }

/-- The inner module lies in a source root of the outer one, and so does the library, which has a
class of the project too. -/
theorem ownsSources_nested :
    nestedConfig.buildProject nestedTree ⟨"/shop"⟩ = .ok nestedProject ∧
      nestedConfig.OwnsSources nestedTree ⟨"/shop"⟩ nestedProject := by
  have built : nestedConfig.buildProject nestedTree ⟨"/shop"⟩ = .ok nestedProject := by
    decide +kernel
  exact ⟨built, ownsSources_of_buildProject built⟩

end ProjectConfig
end ClassEnhancement
