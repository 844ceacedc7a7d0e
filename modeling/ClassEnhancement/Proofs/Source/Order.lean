import ClassEnhancement.Proofs.FileTree.Listing
import ClassEnhancement.Proofs.Source.Accounting

/-!
# Scans in any order

A walk comes to the files below a root in the order in which directories list their entries.  Where
no two files declare the same key, a scan counts the same in every order, and afterwards the index
answers alike.
-/

namespace ClassEnhancement
namespace SourceIndex

variable {tree : FileTree} {index : SourceIndex} {root : FilePath} {origin : Origin}
  {files others : List FilePath}

open scoped List
open FileTree (Listing Visit)

/-! ## One after another -/

/-- Items with distinct keys are taken as if each were the only one, where a taken item changes
nothing for items with other keys. -/
theorem held_foldl_of_nodup {σ β κ : Type} (take : σ → β → σ) (held : σ → List β)
    (accepts : σ → β → Bool) (key : β → κ)
    (taken : ∀ state item, held (take state item) = held state ++ [item].filter (accepts state))
    (undisturbed : ∀ state item other, key item ≠ key other →
      accepts (take state item) other = accepts state other)
    {items : List β} (distinct : (items.map key).Nodup) (state : σ) :
    held (items.foldl take state) = held state ++ items.filter (accepts state) := by
  induction items generalizing state with
  | nil => simp
  | cons item rest hypothesis =>
      obtain ⟨fresh, distinct⟩ := List.nodup_cons.mp distinct
      have same : rest.filter (accepts (take state item)) = rest.filter (accepts state) :=
        List.filter_congr fun other listed =>
          undisturbed state item other fun equal => fresh (equal ▸ List.mem_map_of_mem listed)
      rw [List.foldl_cons, hypothesis distinct, taken, same, List.append_assoc,
        ← List.filter_append, List.singleton_append]

/-- Of declarations with distinct names, those are added whose names were not declared before. -/
theorem declarations_offer_of_nodup {declarations : List Declaration}
    (distinct : (declarations.map Declaration.name).Nodup) (index : SourceIndex) :
    (index.offer declarations).declarations = index.declarations ++
      declarations.filter fun declaration => (index.declared? declaration.name).isNone := by
  refine held_foldl_of_nodup insertFirst SourceIndex.declarations
    (fun index declaration => (index.declared? declaration.name).isNone) Declaration.name
    (fun index declaration => ?_) (fun index declaration other different => ?_) distinct index
  · rw [insertFirst, insert]
    cases known : index.declared? declaration.name <;> simp [known]
  · simp [declared?_insertFirst, firstNamed?, different]

/-- Whether an index registers a file that it is given: it has a name and is not registered. -/
def isNew (index : SourceIndex) (file : FilePath) : Bool :=
  !(file.fileName?.isNone || index.files.any fun known => decide (known.Same file))

theorem files_register (index : SourceIndex) (file : FilePath) :
    (index.register file).files = index.files ++ [file].filter index.isNew := by
  rw [register]
  split
  · next known => simp [isNew, known]
  · next unknown => simp [isNew, unknown]

/-- Of different files, the new ones are registered. -/
theorem files_registerAll_of_nodup (apart : (files.map FilePath.components).Nodup)
    (index : SourceIndex) :
    (index.registerAll files).files = index.files ++ files.filter index.isNew := by
  refine held_foldl_of_nodup register SourceIndex.files isNew FilePath.components files_register
    (fun index file other different => ?_) apart index
  have unlike : ¬ file.Same other := different
  rw [isNew, isNew, files_register, List.any_append, List.filter_singleton]
  cases index.isNew file <;> simp [unlike]

/-! ## Any order of files -/

/-- What two indexes and counts have in common where only the order of files was another. -/
structure Alike (left right : SourceIndex × ScanCount) : Prop where
  /-- The counts are the same. -/
  count : left.2 = right.2
  /-- Keys are answered alike. -/
  found : ∀ key, left.1.find? key = right.1.find? key
  /-- As many classes are declared. -/
  size : left.1.size = right.1.size
  /-- A name has the same files, in some order. -/
  filesNamed : ∀ name, left.1.filesNamed name ~ right.1.filesNamed name

theorem Tallies.declarations_of_nodup {before after : SourceIndex × ScanCount}
    (tallies : Tallies root origin files before after)
    (distinct : ((files.filterMap (declarationOf? root origin)).map Declaration.name).Nodup) :
    after.1.declarations = before.1.declarations ++
      (files.filterMap (declarationOf? root origin)).filter fun declaration =>
        (before.1.declared? declaration.name).isNone := by
  rw [tallies.index_eq, declarations_offer_of_nodup distinct]
  simp only [declared?, declarations_registerAll]

theorem Tallies.files_of_nodup {before after : SourceIndex × ScanCount}
    (tallies : Tallies root origin files before after)
    (apart : (files.map FilePath.components).Nodup) :
    after.1.files = before.1.files ++ files.filter before.1.isNew := by
  rw [tallies.index_eq, files_offer, files_registerAll_of_nodup apart]

/-- Files that declare different keys can be scanned in any order. -/
theorem alike_of_tallies {before left right : SourceIndex × ScanCount}
    (tallies : Tallies root origin files before left)
    (tallies' : Tallies root origin others before right) (order : files ~ others)
    (apart : (files.map FilePath.components).Nodup)
    (distinct : ((files.filterMap (declarationOf? root origin)).map Declaration.name).Nodup) :
    Alike left right := by
  have offers := order.filterMap (declarationOf? root origin)
  have distinct' := (offers.map Declaration.name).nodup_iff.mp distinct
  have apart' := (order.map FilePath.components).nodup_iff.mp apart
  have declared := tallies.declarations_of_nodup distinct
  have declared' := tallies'.declarations_of_nodup distinct'
  have added := offers.filter fun declaration => (before.1.declared? declaration.name).isNone
  have size : left.1.size = right.1.size := by
    rw [SourceIndex.size, SourceIndex.size, declared, declared', List.length_append,
      List.length_append, added.length_eq]
  refine ⟨?_, find?_eq_of_same_first fun name => ?_, size, fun name => ?_⟩
  · have files_eq := tallies.files_eq.trans (order.length_eq ▸ tallies'.files_eq.symm)
    have classes_eq : left.2.classes = right.2.classes := by
      have grown := tallies.grown
      have grown' := tallies'.grown
      omega
    have duplicates_eq : left.2.duplicates = right.2.duplicates := by
      have declaring := tallies.declaring
      have declaring' := tallies'.declaring
      rw [offers.length_eq] at declaring
      omega
    obtain ⟨left, count, classes, duplicates⟩ := left
    obtain ⟨right, count', classes', duplicates'⟩ := right
    simp_all
  · -- New names are distinct, and old ones are answered by the index as it was.
    have named := firstNamed?_eq_of_perm added
      (distinct'.sublist (List.filter_sublist.map Declaration.name)) name
    rw [firstNamed?] at named
    rw [declared, declared', firstNamed?, firstNamed?, List.find?_append, List.find?_append, named,
      firstNamed?]
  · rw [SourceIndex.filesNamed, SourceIndex.filesNamed, tallies.files_of_nodup apart,
      tallies'.files_of_nodup apart']
    exact ((order.filter _).append_left _).filter _

/-! ## Orders of a walk -/

/-- Scans what a visit met. -/
def scanVisit (index : SourceIndex) (root : FilePath) (origin : Origin) (visit : Visit) :
    SourceIndex × Except ScanError ScanCount :=
  let (scanned, count) := scanFiles root origin index visit.files
  match visit.stopped with
  | some cause => (scanned, .error ⟨root, cause⟩)
  | none => (scanned, .ok count)

/-- Scans a root where directories list their entries in some order. -/
def scanListed (index : SourceIndex) (listing : Listing) (tree : FileTree) (root : FilePath)
    (origin : Origin) : SourceIndex × Except ScanError ScanCount :=
  if tree.isDirectory root then index.scanVisit root origin (tree.walkListed listing root)
  else (index, .ok nothingScanned)

theorem scanListed_stored (index : SourceIndex) (tree : FileTree) (root : FilePath)
    (origin : Origin) :
    index.scanListed .stored tree root origin = index.scan tree root origin := by
  rw [scanListed, FileTree.walkListed_stored]
  rfl

/-- No two files below a root declare the same key. -/
def DeclaresApart (tree : FileTree) (root : FilePath) (origin : Origin) : Prop :=
  ∀ file other key, tree.IsBelow root file → tree.IsBelow root other →
    declares origin file = true → declares origin other = true →
    declaredKey? root file = some key → declaredKey? root other = some key → file = other

/-- What two scans have in common that came to the files of a root in different orders. -/
structure ScansAlike (left right : SourceIndex × Except ScanError ScanCount) : Prop where
  /-- They count the same, or both end with an error. -/
  count : ∀ count, left.2 = .ok count ↔ right.2 = .ok count
  /-- With no error, keys are answered alike. -/
  found : ∀ count, left.2 = .ok count → ∀ key, left.1.find? key = right.1.find? key
  /-- As many classes are declared. -/
  size : ∀ count, left.2 = .ok count → left.1.size = right.1.size
  /-- A name has the same files, in some order. -/
  filesNamed : ∀ count, left.2 = .ok count → ∀ name,
    left.1.filesNamed name ~ right.1.filesNamed name

theorem scanVisit_of_finished {visit : Visit} (finished : visit.stopped = none) :
    index.scanVisit root origin visit =
      ((scanFiles root origin index visit.files).1,
        .ok (scanFiles root origin index visit.files).2) := by
  rw [scanVisit, finished]

theorem scanVisit_of_stopped {visit : Visit} {cause : WalkError}
    (stopped : visit.stopped = some cause) :
    (index.scanVisit root origin visit).2 = .error ⟨root, cause⟩ := by
  rw [scanVisit, stopped]

theorem ScansAlike.refl (scan : SourceIndex × Except ScanError ScanCount) : ScansAlike scan scan :=
  ⟨fun _ => .rfl, fun _ _ _ => rfl, fun _ _ => rfl, fun _ _ _ => .refl _⟩

theorem Alike.scansAlike {left right : SourceIndex × ScanCount} (alike : Alike left right) :
    ScansAlike (left.1, .ok left.2) (right.1, .ok right.2) where
  count count := by rw [alike.count]
  found _ _ := alike.found
  size _ _ := alike.size
  filesNamed _ _ := alike.filesNamed

theorem scansAlike_of_failed {left right : SourceIndex × Except ScanError ScanCount}
    {error error' : ScanError} (failed : left.2 = .error error)
    (failed' : right.2 = .error error') : ScansAlike left right := by
  have never : ∀ count, left.2 ≠ .ok count := by simp [failed]
  exact ⟨fun count => by simp [failed, failed'], fun count ended => (never count ended).elim,
    fun count ended => (never count ended).elim, fun count ended => (never count ended).elim⟩

/-- Different files below a root declare different names. -/
theorem DeclaresApart.nodup (apart : DeclaresApart tree root origin)
    (below : ∀ file ∈ files, tree.IsBelow root file) (distinct : files.Nodup) :
    ((files.filterMap (declarationOf? root origin)).map Declaration.name).Nodup := by
  rw [List.Nodup, List.pairwise_map, List.pairwise_filterMap]
  refine distinct.imp_of_mem fun {file other} listed listed' different declaration declared
    declaration' declared' same => different ?_
  obtain ⟨kind, named, -, -⟩ := declarationOf?_eq_some_iff.mp declared
  obtain ⟨kind', named', -, -⟩ := declarationOf?_eq_some_iff.mp declared'
  exact apart file other _ (below file listed) (below other listed') kind kind' named
    (same ▸ named')

/-- A scan of a root where no two files declare the same key does not depend on the order in which
directories list their entries. -/
theorem scansAlike_of_listings (sound : tree.IsSound) (apart : DeclaresApart tree root origin)
    (index : SourceIndex) (listing other : Listing) :
    ScansAlike (index.scanListed listing tree root origin)
      (index.scanListed other tree root origin) := by
  rw [scanListed, scanListed]
  split
  · next directory =>
      have alike := FileTree.alike_walkListed listing other tree root
      cases stopped : (tree.walkListed listing root).stopped with
      | some cause =>
          obtain ⟨cause', stopped'⟩ := Option.ne_none_iff_exists'.mp
            (mt alike.stopped_iff.mpr (by simp [stopped]))
          exact scansAlike_of_failed (scanVisit_of_stopped stopped) (scanVisit_of_stopped stopped')
      | none =>
          have met : (tree.walkListed listing root).files ~ tree.reached root := by
            have stored := FileTree.alike_walkListed listing .stored tree root
            rw [FileTree.walkListed_stored] at stored
            rw [FileTree.reached, if_pos directory]
            exact stored.files_perm stopped
          have different := (met.map FilePath.components).nodup_iff.mpr
            (FileTree.nodup_reached sound root)
          have distinct := apart.nodup (fun file listed =>
            FileTree.isBelow_of_reached sound (met.mem_iff.mp listed)) different.of_map
          rw [scanVisit_of_finished stopped, scanVisit_of_finished (alike.stopped_iff.mp stopped)]
          exact (alike_of_tallies (tallies_foldl ..) (tallies_foldl ..) (alike.files_perm stopped)
            different distinct).scansAlike
  · exact .refl _

/-- A class of the package was declared before, by another file. -/
def startedIndex : SourceIndex where
  declarations := [⟨"a.A", ⟨"old/A.java"⟩, .source⟩]
  files := [⟨"old/A.java"⟩]

theorem declaresApart_overlapping : DeclaresApart overlappingTree ⟨"src"⟩ .source := by
  have directory : overlappingTree.isDirectory ⟨"src"⟩ = true := by decide
  have finished : (overlappingTree.walk ⟨"src"⟩).stopped = none := by decide +kernel
  have apart : ∀ file ∈ overlappingTree.reached ⟨"src"⟩, ∀ other ∈ overlappingTree.reached ⟨"src"⟩,
      (declaredKey? ⟨"src"⟩ file).isSome = true →
      declaredKey? ⟨"src"⟩ file = declaredKey? ⟨"src"⟩ other → file = other := by decide +kernel
  have met_iff : ∀ file, file ∈ overlappingTree.reached ⟨"src"⟩ ↔
      overlappingTree.IsBelow ⟨"src"⟩ file := by
    intro file
    rw [FileTree.mem_reached_iff isSound_overlapping fun _ => finished, and_iff_right directory]
  intro file other key below below' _ _ named named'
  exact apart file ((met_iff file).mpr below) other ((met_iff other).mpr below')
    (by simp [named]) (named.trans named'.symm)

/-- A package and a link to it, met last first. -/
theorem scansAlike_reversed :
    overlappingTree.IsSound ∧ DeclaresApart overlappingTree ⟨"src"⟩ .source ∧
      (overlappingTree.walkListed .reversed ⟨"src"⟩).files ≠
        (overlappingTree.walkListed .stored ⟨"src"⟩).files ∧
      (startedIndex.scanListed .stored overlappingTree ⟨"src"⟩ .source).2 = .ok ⟨4, 1, 1⟩ ∧
      ScansAlike (startedIndex.scanListed .stored overlappingTree ⟨"src"⟩ .source)
        (startedIndex.scanListed .reversed overlappingTree ⟨"src"⟩ .source) :=
  ⟨isSound_overlapping, declaresApart_overlapping, by decide +kernel, by decide +kernel,
    scansAlike_of_listings isSound_overlapping declaresApart_overlapping startedIndex .stored
      .reversed⟩

end SourceIndex
end ClassEnhancement
