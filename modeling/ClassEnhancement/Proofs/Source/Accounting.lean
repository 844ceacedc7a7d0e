import ClassEnhancement.Proofs.FileTree.Reached
import ClassEnhancement.Proofs.Source.Lookup
import ClassEnhancement.Proofs.Source.Scanning

/-!
# What scans account for

The counts of a scan say what came of the declarations that it offered, and an index that was empty
at first holds what the offers of all its scans come to, roots that overlap or come twice included.
-/

namespace ClassEnhancement
namespace SourceIndex

variable {tree : FileTree} {index after : SourceIndex} {count : ScanCount} {root file : FilePath}
  {origin : Origin} {files : List FilePath} {declaration : Declaration}

/-- A scan with no error has counted what its walk reached. -/
theorem tallies_scan
    (scanned : index.scan tree root origin = (after, .ok count)) :
    Tallies root origin (tree.reached root) (index, nothingScanned) (after, count) := by
  rw [scan] at scanned
  rw [FileTree.reached]
  split at scanned
  · next directory =>
      rw [if_pos directory]
      have tallies := tallies_foldl root origin (tree.walk root).files (index, nothingScanned)
      dsimp only at scanned
      split at scanned
      · cases scanned
      · cases scanned
        exact tallies
  · next absent =>
      cases scanned
      rw [if_neg absent]
      exact tallies_foldl root origin [] (index, nothingScanned)

/-! ## Scans one after another -/

/-- A scan that ended with no error. -/
structure Scan where
  /-- The root. -/
  root : FilePath
  /-- What the root holds. -/
  origin : Origin
  /-- What was counted. -/
  count : ScanCount

/-- The index after scans of one tree, the first of which started with nothing. -/
inductive Scanned (tree : FileTree) : List Scan → SourceIndex → Prop
  | nothing : Scanned tree [] .empty
  | scan {scans : List Scan} {index after : SourceIndex} (scan : Scan) :
      Scanned tree scans index →
      index.scan tree scan.root scan.origin = (after, .ok scan.count) →
      Scanned tree (scans ++ [scan]) after

/-- What the files that a scan met declare, in the order of the walk. -/
def Scan.declarations (tree : FileTree) (scan : Scan) : List Declaration :=
  (tree.reached scan.root).filterMap (declarationOf? scan.root scan.origin)

/-- What the files that scans met declare, in the order in which they were met. -/
def history (tree : FileTree) (scans : List Scan) : List Declaration :=
  scans.flatMap (Scan.declarations tree)

/-- The files that scans met, in their order. -/
def met (tree : FileTree) (scans : List Scan) : List FilePath :=
  scans.flatMap fun scan => tree.reached scan.root

variable {scans more : List Scan}

theorem history_append (tree : FileTree) (scans more : List Scan) :
    history tree (scans ++ more) = history tree scans ++ history tree more :=
  List.flatMap_append

theorem met_append (tree : FileTree) (scans more : List Scan) :
    met tree (scans ++ more) = met tree scans ++ met tree more :=
  List.flatMap_append

/-- The index has registered what the scans met and was offered what that declares. -/
theorem Scanned.index_eq (scanned : Scanned tree scans index) :
    index = (empty.registerAll (met tree scans)).offer (history tree scans) := by
  induction scanned with
  | nothing => rfl
  | scan scan _ scanned hypothesis =>
      have added := (tallies_scan scanned).index_eq
      dsimp only at added
      rw [added, hypothesis, registerAll_offer, met_append, history_append, registerAll_append,
        offer_append]
      simp [met, history, Scan.declarations]

theorem Scanned.index_eq_ofHistory (scanned : Scanned tree scans index) :
    index = ofHistory index.files (history tree scans) := by
  have split := scanned.index_eq
  have registered : empty.registerAll (met tree scans) = ⟨[], index.files⟩ := by
    have no_declarations := declarations_registerAll empty (met tree scans)
    have same_files : (empty.registerAll (met tree scans)).files = index.files := by
      rw [split, files_offer]
    rw [← same_files]
    exact congrArg (SourceIndex.mk · _) no_declarations
  rw [registered] at split
  exact split

/-- Every declaration of the index was declared by a file that some scan met. -/
theorem Scanned.exists_scan (scanned : Scanned tree scans index)
    (declared : declaration ∈ index.declarations) :
    ∃ scan ∈ scans, ∃ file ∈ tree.reached scan.root,
      declarationOf? scan.root scan.origin file = some declaration := by
  have offered : declaration ∈ history tree scans := by
    have split := scanned.index_eq
    rw [split] at declared
    simpa [empty] using declarations_offer_subset _ _ declared
  obtain ⟨scan, member, there⟩ := List.mem_flatMap.mp offered
  obtain ⟨file, reached, names⟩ := List.mem_filterMap.mp there
  exact ⟨scan, member, file, reached, names⟩

/-- Roots that were all scanned are scans one after another. -/
theorem Scanned.append_of_scanAll (scanned : Scanned tree scans index)
    {roots : List (FilePath × Origin)} (ended : index.scanAll tree roots = .ok after) :
    ∃ more, more.map (fun scan => (scan.root, scan.origin)) = roots ∧
      Scanned tree (scans ++ more) after := by
  induction roots generalizing scans index with
  | nil =>
      cases ended
      exact ⟨[], rfl, by simpa using scanned⟩
  | cons next rest hypothesis =>
      obtain ⟨root, origin⟩ := next
      rw [scanAll] at ended
      split at ended
      · next middle count step =>
          obtain ⟨more, spelled, scanned'⟩ :=
            hypothesis (scanned.scan ⟨root, origin, count⟩ step) ended
          exact ⟨⟨root, origin, count⟩ :: more, by rw [List.map_cons, spelled], by
            simpa using scanned'⟩
      · cases ended

/-- The first declaration of a key answers for the key. -/
theorem Scanned.find?_eq (scanned : Scanned tree scans index) {key : String}
    (first : firstNamed? (history tree scans) key = some declaration) :
    index.find? key = some declaration := by
  have named : declaration.name = key := by simpa using List.find?_some first
  rw [scanned.index_eq_ofHistory, (recalls_ofHistory _ _).found_iff]
  refine ⟨named ▸ first, named ▸ List.prefix_rfl, fun other _ begins => ?_⟩
  rwa [named]

/-- Later scans leave the first declarations first. -/
theorem firstNamed?_history_append {key : String}
    (first : firstNamed? (history tree scans) key = some declaration) (more : List Scan) :
    firstNamed? (history tree (scans ++ more)) key = some declaration := by
  rw [firstNamed?] at first ⊢
  rw [history_append, List.find?_append, first, Option.some_or]

theorem Scanned.size_eq (scanned : Scanned tree scans index) :
    index.size = (scans.map fun scan => scan.count.classes).sum := by
  induction scanned with
  | nothing => rfl
  | scan scan _ scanned hypothesis =>
      have grown := (tallies_scan scanned).grown
      simp only [nothingScanned] at grown
      rw [List.map_append, List.sum_append, List.map_singleton, List.sum_singleton]
      omega

/-- Every scan has counted what its walk reached. -/
theorem Scanned.tallies (scanned : Scanned tree scans index) :
    ∀ scan ∈ scans, ∃ before after, before.scan tree scan.root scan.origin = (after, .ok scan.count) ∧
      Tallies scan.root scan.origin (tree.reached scan.root) (before, nothingScanned)
        (after, scan.count) := by
  induction scanned with
  | nothing => exact nofun
  | scan scan _ scanned hypothesis =>
      intro other member
      rcases List.mem_append.mp member with early | last
      · exact hypothesis other early
      · obtain rfl := List.mem_singleton.mp last
        exact ⟨_, _, scanned, tallies_scan scanned⟩

/-! ## Registered files -/

/-- Registered files are different paths. -/
theorem nodup_registerAll (files : List FilePath)
    (distinct : (index.files.map FilePath.components).Nodup) :
    ((index.registerAll files).files.map FilePath.components).Nodup := by
  induction files generalizing index with
  | nil => exact distinct
  | cons file rest hypothesis =>
      refine hypothesis ?_
      rw [register]
      split
      · exact distinct
      · next fresh =>
          rw [List.map_append, List.map_singleton]
          refine distinct.append (List.nodup_singleton _) ?_
          rw [List.disjoint_singleton, List.mem_map]
          rintro ⟨known, listed, same⟩
          have already : index.files.any (fun known => decide (known.Same file)) = true :=
            List.any_eq_true.mpr ⟨known, listed, decide_eq_true same⟩
          exact fresh (by rw [already, Bool.or_true])

theorem register_files_subset (index : SourceIndex) (file : FilePath) :
    index.files ⊆ (index.register file).files := by
  rw [register]
  split
  · exact List.Subset.refl _
  · exact List.subset_append_left _ _

theorem registerAll_files_subset (index : SourceIndex) (files : List FilePath) :
    index.files ⊆ (index.registerAll files).files := by
  induction files generalizing index with
  | nil => exact List.Subset.refl _
  | cons file rest hypothesis =>
      exact List.Subset.trans (register_files_subset index file) (hypothesis _)

/-- A file with a name is registered, in this spelling or another. -/
theorem exists_same_registerAll (index : SourceIndex) {name : String} (member : file ∈ files)
    (named : file.fileName? = some name) :
    ∃ known ∈ (index.registerAll files).files, known.Same file := by
  induction files generalizing index with
  | nil => cases member
  | cons next rest hypothesis =>
      rcases List.mem_cons.mp member with rfl | later
      · have there : ∃ known ∈ (index.register file).files, known.Same file := by
          rw [register]
          split
          · next known => simpa [named] using known
          · exact ⟨file, by simp, .refl file⟩
        obtain ⟨known, listed, same⟩ := there
        exact ⟨known, registerAll_files_subset _ rest listed, same⟩
      · exact hypothesis _ later

/-- The files of a name list every registered path of that name once. -/
theorem countP_filesNamed {name : String} {known : FilePath}
    (distinct : (index.files.map FilePath.components).Nodup) (listed : known ∈ index.files)
    (same : known.Same file) (named : file.fileName? = some name) :
    (index.filesNamed name).countP (fun other => decide (other.Same file)) = 1 := by
  rw [filesNamed, List.countP_filter]
  have alike : ∀ other ∈ index.files,
      (decide (other.Same file) && (other.fileName? == some name)) = true ↔
        ((· == file.components) ∘ FilePath.components) other = true := by
    intro other _
    rw [Bool.and_eq_true, decide_eq_true_eq, beq_iff_eq, Function.comp_apply, beq_iff_eq]
    refine and_iff_left_of_imp fun equal => ?_
    rw [FilePath.fileName?, equal, ← FilePath.fileName?, named]
  rw [List.countP_congr alike, ← List.countP_map, ← List.count_eq_countP]
  exact List.count_eq_one_of_mem distinct (same ▸ List.mem_map_of_mem listed)

theorem Scanned.listed_once (scanned : Scanned tree scans index) {name : String}
    (reached : file ∈ met tree scans) (named : file.fileName? = some name) :
    (index.filesNamed name).countP (fun known => decide (known.Same file)) = 1 := by
  have files_eq : index.files = (empty.registerAll (met tree scans)).files := by
    have split := scanned.index_eq
    rw [split, files_offer]
  obtain ⟨known, listed, same⟩ := exists_same_registerAll empty reached named
  refine countP_filesNamed ?_ (files_eq ▸ listed) same named
  rw [files_eq]
  exact nodup_registerAll _ List.nodup_nil

/-! ## The account -/

/-- What an index and the counts of its scans say of the files below the roots. -/
structure Accounts (tree : FileTree) (scans : List Scan) (index : SourceIndex) : Prop where
  /-- The classes that were counted are those of the index. -/
  size_eq : index.size = (scans.map fun scan => scan.count.classes).sum
  /-- A scan reaches the regular files below its root, if that is a directory. -/
  reached_iff : ∀ scan ∈ scans, ∀ file, file ∈ tree.reached scan.root ↔
    tree.isDirectory scan.root = true ∧ tree.IsBelow scan.root file
  /-- It reaches no path twice, whatever its spelling. -/
  reached_once : ∀ scan ∈ scans, ((tree.reached scan.root).map FilePath.components).Nodup
  /-- It counts what it reached. -/
  files_eq : ∀ scan ∈ scans, scan.count.files = (tree.reached scan.root).length
  /-- It counts a file that declares a key as a class or as a duplicate. -/
  declaring_eq : ∀ scan ∈ scans, scan.count.classes + scan.count.duplicates =
    (tree.reached scan.root).countP fun file =>
      (declarationOf? scan.root scan.origin file).isSome
  /-- What was reached is listed under its name, once. -/
  listed_once : ∀ scan ∈ scans, ∀ file ∈ tree.reached scan.root,
    ∃ name, file.fileName? = some name ∧
      (index.filesNamed name).countP (fun known => decide (known.Same file)) = 1
  /-- A declared key is found as it was declared first, after later scans too. -/
  found : ∀ key ∈ (history tree scans).map Declaration.name, ∃ first,
    firstNamed? (history tree scans) key = some first ∧ first.name = key ∧
      index.find? key = some first ∧
      ∀ more later, Scanned tree (scans ++ more) later → later.find? key = some first

/-- A source root with a package and a link to the package, and a library. -/
def overlappingTree : FileTree :=
  (((((((FileTree.empty []).put ["src"] .directory).put ["src", "a"] .directory).put
    ["src", "a", "A.java"] (.file [])).put ["src", "a", "package-info.java"] (.file [])).put
    ["src", "b"] (.link ⟨"a"⟩)).put ["lib"] .directory).put ["lib", "a"] .directory |>.put
    ["lib", "a", "A.class"] (.file [])

theorem isSound_overlapping : overlappingTree.IsSound where
  grounded := FileTree.isReachable_root _
  plain := by decide
  unterminated := by decide

end SourceIndex
end ClassEnhancement
