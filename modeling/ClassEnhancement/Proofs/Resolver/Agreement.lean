import ClassEnhancement.Proofs.Resolver.Transparency
import ClassEnhancement.Proofs.Source.Lookup
import ClassEnhancement.Proofs.Source.Scanning

/-!
# Lookups by the name of a class

A scan, a class loader and the name itself spell one key for a class.  So a class of a library root
that was scanned is found in its own file, and a class whose longest declared ancestor is a source
of a module is found in the main output of that module, whatever was looked up before.
-/

namespace ClassEnhancement

/-! ## What is remembered -/

/-- What is remembered of a class is what its itinerary holds. -/
def ClassCache.Recounts (cache : ClassCache) (context : BuildContext) (tree : FileTree)
    (classes : CompiledSet) : Prop :=
  ∀ classPath bytes, cache.found.find? classPath = some bytes →
    (Itinerary.ofClass context classes classPath).answer? context tree = some bytes

namespace Resolver

variable {retention : Retention} {classes : CompiledSet} {context : BuildContext} {tree : FileTree}
  {cache : ClassCache} {classPath : String} {bytes : Bytes}

theorem recounts_resolve (recounts : cache.Recounts context tree classes) (classPath : String) :
    ((retaining retention classes).resolve context tree cache classPath).cache.Recounts context tree
      classes := by
  have answers : (retaining retention classes).answer? context tree =
      fun classPath => (Itinerary.ofClass context classes classPath).answer? context tree :=
    funext (answer?_retaining retention classes)
  have tells : cache.Tells ((retaining retention classes).answer? context tree) := by
    rw [answers]
    exact recounts
  have kept := tells_resolve tells classPath
  rw [answers] at kept
  exact kept

/-- What a resolver remembers after lookups. -/
def cacheAfter (resolver : Resolver) (context : BuildContext) (tree : FileTree)
    (earlier : List String) : ClassCache :=
  earlier.foldl (fun cache classPath => (resolver.resolve context tree cache classPath).cache) .empty

theorem recounts_cacheAfter (earlier : List String) :
    ((retaining retention classes).cacheAfter context tree earlier).Recounts context tree
      classes := by
  have recounts_foldl : ∀ cache : ClassCache, cache.Recounts context tree classes →
      (earlier.foldl (fun cache classPath =>
        ((retaining retention classes).resolve context tree cache classPath).cache) cache).Recounts
          context tree classes := by
    induction earlier with
    | nil => exact fun _ recounts => recounts
    | cons classPath rest induction =>
        exact fun cache recounts => induction _ (recounts_resolve recounts classPath)
  exact recounts_foldl .empty ClassCache.tells_empty

/-- A lookup whose first stop holds the class finds it with no warning, whatever is remembered. -/
theorem resolve_first_stop (recounts : cache.Recounts context tree classes) {file : FilePath}
    {rest : Itinerary}
    (itinerary : Itinerary.ofClass context classes classPath = ⟨[], file⟩ :: rest)
    (held : context.layer.read tree file = .content bytes) :
    ((retaining retention classes).resolve context tree cache classPath).result = some bytes ∧
      ((retaining retention classes).resolve context tree cache classPath).warnings = [] := by
  have present : context.layer.read tree file ≠ .absent := by simp [held]
  have visited : (Itinerary.ofClass context classes classPath).visited context tree =
      [⟨[], file⟩] := by
    rw [itinerary]
    exact Itinerary.visited_of_ne_absent present
  have answer : (Itinerary.ofClass context classes classPath).answer? context tree =
      some bytes := by
    rw [Itinerary.answer?_eq, visited]
    simp [held, ReadOutcome.bytes?]
  cases recalled : retention.recalled? cache classPath with
  | some remembered =>
      have tells : cache.Tells fun classPath =>
        (Itinerary.ofClass context classes classPath).answer? context tree := recounts
      have same := (tells.recalled recalled).symm.trans answer
      simp only [resolve, retaining, recalled]
      exact ⟨same, trivial⟩
  | none =>
      have follows := ask_follows (retaining retention classes) context tree cache.asked classPath
      have result := follows.result.trans answer
      rw [resolve_of_missed recalled]
      refine ⟨result, ?_⟩
      rw [follows.warnings, result]
      simp [retaining, visited]

end Resolver

/-! ## Where a class is held -/

/-- A library root was scanned with no error when it held the file of a class, and no other file is
declared for the class. -/
structure SourceIndex.HoldsInLibrary (index : SourceIndex) (name : ClassName) (root : FilePath) :
    Prop where
  scanned : ∃ (start : SourceIndex) (tree : FileTree) (count : ScanCount),
    tree.isDirectory root = true ∧ tree.isFile (root.join name.classFile) = true ∧
      (start.scan tree root .library).2 = .ok count ∧
      (start.scan tree root .library).1.declarations ⊆ index.declarations
  sources : index.SourcesInSourceFiles
  alone : ∀ declaration ∈ index.declarations, declaration.name = name.indexKey →
    declaration.file = root.join name.classFile

/-- The longest declared ancestor of a class is a source of a module with a main output. -/
def Project.OutputsTo (project : Project) (name : ClassName) (output : FilePath) : Prop :=
  ∃ declaration owner, SourceIndex.Answers project.index.declarations name.indexKey declaration ∧
    declaration.origin = .source ∧ project.moduleFor? declaration.file = some owner ∧
    owner.output = some output

theorem SourceIndex.HoldsInLibrary.find? {index : SourceIndex} {name : ClassName} {root : FilePath}
    (holds : index.HoldsInLibrary name root) :
    index.find? name.indexKey = some ⟨name.indexKey, root.join name.classFile, .library⟩ := by
  obtain ⟨⟨start, tree, count, directory, file, scanned, kept⟩, sources, alone⟩ := holds
  obtain ⟨declaration, declared, named⟩ := declared_of_scan directory name file scanned
  have answered : (index.find? name.indexKey).isSome = true :=
    isSome_find?_iff.mpr ⟨declaration, kept declared, named ▸ List.prefix_refl _⟩
  obtain ⟨found, found_eq⟩ := Option.isSome_iff_exists.mp answered
  have answers := find?_eq_some_iff.mp found_eq
  have listed : found ∈ index.declarations := List.mem_of_find?_eq_some answers.first
  -- The key itself is declared, so no proper ancestor is nearest.
  have nearest := answers.nearest declaration (kept declared) (named ▸ List.prefix_refl _)
  rw [named] at nearest
  have found_named : found.name = name.indexKey := by
    refine eq_of_covers (covers_iff.mpr answers.ancestor) (covers_iff.mpr (List.prefix_refl _)) ?_
    have back := (closed_isPrefix_iff.mpr nearest).length_le
    have forth := (closed_isPrefix_iff.mpr answers.ancestor).length_le
    simp only [closed, List.length_append, List.length_singleton] at back forth
    omega
  have found_file := alone found listed found_named
  have found_origin : found.origin = .library := by
    cases origin : found.origin with
    | library => rfl
    | source =>
        have placed := sources found listed origin
        rw [found_file, declares_classFile] at placed
        cases placed
  rw [found_eq, ← found_named, ← found_file, ← found_origin]

namespace Itinerary

variable {project : Project} {layer : FileAccess} {classes : CompiledSet} {name : ClassName}

theorem keyOf_slashed (name : ClassName) : keyOf name.slashed = name.indexKey := by
  rw [← Resolution.indexKeyOf_eq, Resolution.indexKeyOf_slashed]

theorem ofClass_of_library (stale : name ∉ classes.keys) {root : FilePath}
    (holds : project.index.HoldsInLibrary name root) :
    ofClass ⟨project, layer⟩ classes name.slashed = [⟨[], root.join name.classFile⟩] := by
  simp only [ofClass, Resolution.dottedOf_slashed, CompiledSet.fileOf?_of_stale stale,
    keyOf_slashed, holds.find?]

theorem ofClass_of_output (stale : name ∉ classes.keys) {output : FilePath}
    (outputs : project.OutputsTo name output) :
    ∃ rest, ofClass ⟨project, layer⟩ classes name.slashed =
      ⟨[], output.join name.classFile⟩ :: rest := by
  obtain ⟨declaration, owner, answers, source, owned, main⟩ := outputs
  simp only [ofClass, Resolution.dottedOf_slashed, CompiledSet.fileOf?_of_stale stale,
    keyOf_slashed, SourceIndex.find?_eq_some_iff.mpr answers, source, owned, ofOwner, main,
    Resolution.relativeFileOf_slashed]
  cases owner.testOutput with
  | none => exact ⟨_, rfl⟩
  | some test => exact ⟨_, rfl⟩

end Itinerary

namespace Resolver

theorem read_plain_content {tree : FileTree} {file : FilePath} {bytes : Bytes}
    (held : tree.read file = .ok bytes) : FileAccess.plain.read tree file = .content bytes := by
  change FileLayer.plain.read tree file = .content bytes
  rw [FileLayer.read_plain, held]
  rfl

/-- A scan that meets the class file of a class below any root, and a resolver that is asked for the
slash spelling of the class, come to the key of the class.  So a class that is not fresh is found
with no warning, whatever was looked up before: in the library root that was scanned with its file
and that alone declares it, and in the main output of the module that owns its longest declared
ancestor. -/
theorem resolve_named (name : ClassName) :
    (∀ root : FilePath,
      SourceIndex.declaredKey? root (root.join name.classFile) = some name.indexKey) ∧
    Resolution.indexKeyOf name.slashed = name.indexKey ∧
    ∀ (project : Project) (classes : CompiledSet) (retention : Retention) (tree : FileTree)
      (earlier : List String), name ∉ classes.keys →
      let context : BuildContext := ⟨project, .plain⟩
      let resolver := retaining retention classes
      let lookup := resolver.resolve context tree (resolver.cacheAfter context tree earlier)
        name.slashed
      (∀ root bytes, project.index.HoldsInLibrary name root →
        tree.read (root.join name.classFile) = .ok bytes →
        lookup.result = some bytes ∧ lookup.warnings = []) ∧
      ∀ output bytes, project.OutputsTo name output →
        tree.read (output.join name.classFile) = .ok bytes →
        lookup.result = some bytes ∧ lookup.warnings = [] := by
  refine ⟨fun root => SourceIndex.declaredKey?_join root name, Resolution.indexKeyOf_slashed name,
    fun project classes retention tree earlier stale => ⟨?_, ?_⟩⟩
  · intro root bytes holds held
    exact resolve_first_stop (recounts_cacheAfter earlier)
      (Itinerary.ofClass_of_library stale holds) (read_plain_content held)
  · intro output bytes outputs held
    obtain ⟨rest, itinerary⟩ := Itinerary.ofClass_of_output stale outputs
    exact resolve_first_stop (recounts_cacheAfter earlier) itinerary (read_plain_content held)

/-! ## A library class and a nested class -/

/-- The class nested in `a.A`. -/
def nestedName : ClassName := ⟨["a", "A$B"], by decide, by decide⟩

/-- A class of a library. -/
def libraryName : ClassName := ⟨["b", "L"], by decide, by decide⟩

/-- A source root, an output directory and a library root. -/
def namedTree : FileTree :=
  (((((((((FileTree.empty []).put ["src"] .directory).put ["src", "a"] .directory).put
    ["src", "a", "A.java"] (.file [])).put ["out"] .directory).put ["out", "a"] .directory).put
    ["out", "a", "A$B.class"] (.file [1])).put ["lib"] .directory).put ["lib", "b"] .directory).put
    ["lib", "b", "L.class"] (.file [2])

/-- The index of the source root. -/
def sourcesIndex : SourceIndex := (SourceIndex.empty.scan namedTree ⟨"src"⟩ .source).1

/-- A module with both roots in its index. -/
def namedProject : Project where
  name := "named"
  base := ⟨"/"⟩
  modules := [⟨"app", some ⟨"out"⟩, none, [⟨"src"⟩]⟩]
  index := (sourcesIndex.scan namedTree ⟨"lib"⟩ .library).1

theorem holdsInLibrary_named : namedProject.index.HoldsInLibrary libraryName ⟨"lib"⟩ where
  scanned := ⟨sourcesIndex, namedTree, ⟨1, 1, 0⟩, by decide, by decide, by decide,
    List.Subset.refl _⟩
  sources := by
    have nothing : SourceIndex.empty.SourcesInSourceFiles := nofun
    exact (nothing.scan namedTree ⟨"src"⟩ .source).scan namedTree ⟨"lib"⟩ .library
  alone := by decide

theorem outputsTo_named : namedProject.OutputsTo nestedName ⟨"out"⟩ :=
  ⟨⟨"a.A", ⟨"src/a/A.java"⟩, .source⟩, ⟨"app", some ⟨"out"⟩, none, [⟨"src"⟩]⟩,
    SourceIndex.find?_eq_some_iff.mp (by decide), rfl, by decide, rfl⟩

/-- Both classes are found after both were looked up. -/
theorem resolve_named_both :
    let resolver := retaining (.newest 1) .empty
    let context : BuildContext := ⟨namedProject, .plain⟩
    let cache := resolver.cacheAfter context namedTree [libraryName.slashed, nestedName.slashed]
    (resolver.resolve context namedTree cache libraryName.slashed).result = some [2] ∧
      (resolver.resolve context namedTree cache nestedName.slashed).result = some [1] ∧
      (resolver.resolve context namedTree cache nestedName.slashed).warnings = [] := by
  have library := ((resolve_named libraryName).2.2 namedProject .empty (.newest 1) namedTree
    [libraryName.slashed, nestedName.slashed] (by decide)).1 ⟨"lib"⟩ [2] holdsInLibrary_named
    (by decide)
  have nested := ((resolve_named nestedName).2.2 namedProject .empty (.newest 1) namedTree
    [libraryName.slashed, nestedName.slashed] (by decide)).2 ⟨"out"⟩ [1] outputsTo_named
    (by decide)
  exact ⟨library.1, nested.1, nested.2⟩

end Resolver
end ClassEnhancement
