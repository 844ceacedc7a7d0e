import ClassEnhancement.Proofs.FileTree.Descent
import ClassEnhancement.Proofs.Source.Spelling

/-!
# What a scan declares

A scan registers every file that it meets, and offers to the index the class that the path of the
file names.  So it keeps what was declared before it, declares the key of every file that stands for
a class, and places every declaration in a file of its kind.
-/

namespace ClassEnhancement
namespace SourceIndex

/-- The declaration that a file below a root of the given kind is scanned for. -/
def declarationOf? (root : FilePath) (origin : Origin) (file : FilePath) : Option Declaration :=
  if declares origin file then (declaredKey? root file).map fun key => ⟨key, file, origin⟩ else none

/-- An index that was offered declarations, one after another. -/
def offer (index : SourceIndex) (declarations : List Declaration) : SourceIndex :=
  declarations.foldl insertFirst index

/-- An index that was given files, one after another. -/
def registerAll (index : SourceIndex) (files : List FilePath) : SourceIndex :=
  files.foldl register index

/-- Every declaration of a source stands in a source file. -/
def SourcesInSourceFiles (index : SourceIndex) : Prop :=
  ∀ declaration ∈ index.declarations, declaration.origin = .source →
    declares .source declaration.file = true

variable {tree : FileTree} {index : SourceIndex} {count : ScanCount} {root file : FilePath}
  {origin : Origin} {files others : List FilePath} {declaration : Declaration}

/-! ## Offers -/

theorem declarationOf?_eq_some_iff :
    declarationOf? root origin file = some declaration ↔
      declares origin file = true ∧ declaredKey? root file = some declaration.name ∧
        declaration.file = file ∧ declaration.origin = origin := by
  rw [declarationOf?]
  split
  · next kind =>
      rw [Option.map_eq_some_iff]
      constructor
      · rintro ⟨key, named, rfl⟩
        exact ⟨kind, named, rfl, rfl⟩
      · rintro ⟨-, named, rfl, rfl⟩
        exact ⟨_, named, rfl⟩
  · next other => simp [other]

theorem offer_append (index : SourceIndex) (declarations later : List Declaration) :
    index.offer (declarations ++ later) = (index.offer declarations).offer later :=
  List.foldl_append

theorem registerAll_append (index : SourceIndex) (files later : List FilePath) :
    index.registerAll (files ++ later) = (index.registerAll files).registerAll later :=
  List.foldl_append

@[simp]
theorem files_insertFirst (index : SourceIndex) (declaration : Declaration) :
    (index.insertFirst declaration).files = index.files := by
  unfold insertFirst
  split
  · next extended inserted => exact files_of_insert inserted
  · rfl

@[simp]
theorem files_offer (index : SourceIndex) (declarations : List Declaration) :
    (index.offer declarations).files = index.files := by
  induction declarations generalizing index with
  | nil => rfl
  | cons declaration rest hypothesis => exact (hypothesis _).trans (files_insertFirst _ _)

@[simp]
theorem declarations_registerAll (index : SourceIndex) (files : List FilePath) :
    (index.registerAll files).declarations = index.declarations := by
  induction files generalizing index with
  | nil => rfl
  | cons file rest hypothesis => exact (hypothesis _).trans (declarations_register _ _)

/-- Files and declarations do not depend on each other. -/
theorem register_insertFirst (index : SourceIndex) (declaration : Declaration) (file : FilePath) :
    (index.insertFirst declaration).register file =
      (index.register file).insertFirst declaration := by
  have same : (index.register file).declared? declaration.name =
      index.declared? declaration.name := by
    rw [declared?, declarations_register, declared?]
  rw [insertFirst, insert, insertFirst, insert, same]
  cases index.declared? declaration.name with
  | some first => rfl
  | none =>
      simp only [register]
      split <;> rfl

theorem registerAll_offer (index : SourceIndex) (declarations : List Declaration)
    (files : List FilePath) :
    (index.offer declarations).registerAll files = (index.registerAll files).offer declarations := by
  have single : ∀ (index : SourceIndex) (file : FilePath),
      (index.offer declarations).register file = (index.register file).offer declarations := by
    intro index file
    induction declarations generalizing index with
    | nil => rfl
    | cons declaration rest hypothesis =>
        exact (hypothesis _).trans (congrArg (offer · rest) (register_insertFirst _ _ _))
  induction files generalizing index with
  | nil => rfl
  | cons file rest hypothesis =>
      exact (congrArg (registerAll · rest) (single index file)).trans (hypothesis _)

theorem insertFirst_of_inserted {extended : SourceIndex}
    (inserted : index.insert declaration = .ok extended) :
    index.insertFirst declaration = extended ∧ extended.size = index.size + 1 := by
  refine ⟨by rw [insertFirst, inserted], ?_⟩
  rw [insert] at inserted
  split at inserted
  · cases inserted
  · cases inserted
    rw [size, List.length_append, List.length_singleton, size]

theorem insertFirst_of_refused {duplicate : DuplicateClass}
    (refused : index.insert declaration = .error duplicate) :
    index.insertFirst declaration = index := by
  rw [insertFirst, refused]

/-- An offer is declared, or its name was declared before. -/
theorem insertFirst_cases (index : SourceIndex) (declaration : Declaration) :
    (index.insertFirst declaration).declarations = index.declarations ∧
        (∃ first ∈ index.declarations, first.name = declaration.name) ∨
      (index.insertFirst declaration).declarations = index.declarations ++ [declaration] := by
  rw [insertFirst, insert]
  cases known : index.declared? declaration.name with
  | some first =>
      exact .inl ⟨rfl, first, List.mem_of_find?_eq_some known, by simpa using List.find?_some known⟩
  | none => exact .inr rfl

/-- What was declared stays declared. -/
theorem subset_declarations_offer (index : SourceIndex) (declarations : List Declaration) :
    index.declarations ⊆ (index.offer declarations).declarations := by
  induction declarations generalizing index with
  | nil => exact List.Subset.refl _
  | cons declaration rest hypothesis =>
      refine List.Subset.trans ?_ (hypothesis (index.insertFirst declaration))
      rcases insertFirst_cases index declaration with ⟨same, -⟩ | added
      · rw [same]
        exact List.Subset.refl _
      · exact added ▸ List.subset_append_left _ _

/-- Only offers are declared anew. -/
theorem declarations_offer_subset (index : SourceIndex) (declarations : List Declaration) :
    (index.offer declarations).declarations ⊆ index.declarations ++ declarations := by
  induction declarations generalizing index with
  | nil => simp [offer]
  | cons declaration rest hypothesis =>
      intro declared member
      rw [List.append_cons]
      refine (List.append_subset.mpr ⟨List.subset_append_of_subset_left _ ?_,
        List.subset_append_right _ _⟩) (hypothesis (index.insertFirst declaration) member)
      rcases insertFirst_cases index declaration with ⟨same, -⟩ | added
      · exact same ▸ List.subset_append_left _ _
      · rw [added]
        exact List.Subset.refl _

/-- The name of every offer is declared. -/
theorem exists_named_of_offered {declarations : List Declaration}
    (offered : declaration ∈ declarations) :
    ∃ declared ∈ (index.offer declarations).declarations, declared.name = declaration.name := by
  induction declarations generalizing index with
  | nil => cases offered
  | cons first rest hypothesis =>
      rcases List.mem_cons.mp offered with rfl | later
      · have there : ∃ declared ∈ (index.insertFirst declaration).declarations,
            declared.name = declaration.name := by
          rcases insertFirst_cases index declaration with ⟨same, known⟩ | added
          · exact same.symm ▸ known
          · exact ⟨declaration, added ▸ List.mem_append_right _ (List.mem_singleton_self _), rfl⟩
        obtain ⟨declared, listed, same⟩ := there
        exact ⟨declared, subset_declarations_offer _ rest listed, same⟩
      · exact hypothesis later

/-! ## Files one after another -/

/-- What scanning files makes of an index and of the counts. -/
structure Tallies (root : FilePath) (origin : Origin) (files : List FilePath)
    (before after : SourceIndex × ScanCount) : Prop where
  /-- Every file is registered, and what it declares is offered. -/
  index_eq : after.1 =
    (before.1.registerAll files).offer (files.filterMap (declarationOf? root origin))
  /-- Every file counts. -/
  files_eq : after.2.files = before.2.files + files.length
  /-- A class counts where the index grew. -/
  grown : after.2.classes + before.1.size = before.2.classes + after.1.size
  /-- A file that declares counts as a class or as a duplicate. -/
  declaring : after.2.classes + after.2.duplicates =
    before.2.classes + before.2.duplicates + (files.filterMap (declarationOf? root origin)).length

theorem scanFile_of_nothing (index : SourceIndex) (count : ScanCount)
    (nothing : declarationOf? root origin file = none) :
    scanFile root origin index count file =
      (index.register file, { count with files := count.files + 1 }) := by
  rw [declarationOf?] at nothing
  rw [scanFile]
  split at nothing
  · next kind =>
      rw [if_pos kind, Option.map_eq_none_iff.mp nothing]
  · next other => rw [if_neg other]

theorem scanFile_of_declared (index : SourceIndex) (count : ScanCount)
    (declared : declarationOf? root origin file = some declaration) :
    scanFile root origin index count file =
      match (index.register file).insert declaration with
      | .ok extended =>
        (extended, { count with files := count.files + 1, classes := count.classes + 1 })
      | .error _ =>
        (index.register file,
          { count with files := count.files + 1, duplicates := count.duplicates + 1 }) := by
  obtain ⟨kind, named, rfl, rfl⟩ := declarationOf?_eq_some_iff.mp declared
  rewrite [scanFile, if_pos kind, named]
  rfl

theorem tallies_scanFile (root : FilePath) (origin : Origin) (index : SourceIndex)
    (count : ScanCount) (file : FilePath) :
    Tallies root origin [file] (index, count) (scanFile root origin index count file) := by
  have same_size : (index.register file).size = index.size := by simp [size]
  cases declared : declarationOf? root origin file with
  | none =>
      have offers : [file].filterMap (declarationOf? root origin) = [] := by simp [declared]
      rw [scanFile_of_nothing index count declared]
      exact ⟨by rw [offers]; rfl, rfl, by rw [same_size], by rw [offers]; rfl⟩
  | some declaration =>
      have offers : [file].filterMap (declarationOf? root origin) = [declaration] := by
        simp [declared]
      rw [scanFile_of_declared index count declared]
      split
      · next extended inserted =>
          obtain ⟨offered, grown⟩ := insertFirst_of_inserted inserted
          refine ⟨by rw [offers]; exact offered.symm, rfl, ?_, ?_⟩
          · dsimp only
            omega
          · rw [offers, List.length_singleton]
            dsimp only
            omega
      · next duplicate refused =>
          have offered := insertFirst_of_refused refused
          refine ⟨by rw [offers]; exact offered.symm, rfl, by rw [same_size], ?_⟩
          rw [offers, List.length_singleton]
          dsimp only
          omega

theorem Tallies.trans {before middle after : SourceIndex × ScanCount}
    (tallies : Tallies root origin files before middle)
    (tallies' : Tallies root origin others middle after) :
    Tallies root origin (files ++ others) before after where
  index_eq := by
    rw [tallies'.index_eq, tallies.index_eq, registerAll_offer, List.filterMap_append, offer_append,
      registerAll_append]
  files_eq := by
    rw [tallies'.files_eq, tallies.files_eq, List.length_append, Nat.add_assoc]
  grown := by
    have first := tallies.grown
    have second := tallies'.grown
    omega
  declaring := by
    rw [tallies'.declaring, tallies.declaring, List.filterMap_append, List.length_append,
      Nat.add_assoc]

theorem tallies_foldl (root : FilePath) (origin : Origin) (files : List FilePath)
    (state : SourceIndex × ScanCount) :
    Tallies root origin files state
      (files.foldl (fun state file => scanFile root origin state.1 state.2 file) state) := by
  induction files generalizing state with
  | nil => exact ⟨rfl, rfl, rfl, rfl⟩
  | cons file rest hypothesis =>
      exact (tallies_scanFile root origin state.1 state.2 file).trans (hypothesis _)

/-! ## What is declared -/

/-- What scanning files makes of declarations. -/
structure Adds (root : FilePath) (origin : Origin) (files : List FilePath)
    (before after : List Declaration) : Prop where
  /-- What was declared stays declared. -/
  kept : before ⊆ after
  /-- Every class that a file names is declared. -/
  declared : ∀ file ∈ files, ∀ key, declares origin file = true →
    declaredKey? root file = some key → ∃ declaration ∈ after, declaration.name = key
  /-- New declarations have the origin of the root and stand in files of its kind. -/
  placed : ∀ declaration ∈ after, declaration ∈ before ∨
    declaration.origin = origin ∧ declares origin declaration.file = true

/-- New declarations are those of the files. -/
theorem Tallies.offered {before after : SourceIndex × ScanCount}
    (tallies : Tallies root origin files before after)
    (declared : declaration ∈ after.1.declarations) :
    declaration ∈ before.1.declarations ∨
      ∃ file ∈ files, declarationOf? root origin file = some declaration := by
  rw [tallies.index_eq] at declared
  rcases List.mem_append.mp (declarations_offer_subset _ _ declared) with earlier | offered
  · exact .inl (by simpa using earlier)
  · exact .inr (List.mem_filterMap.mp offered)

theorem Tallies.adds {before after : SourceIndex × ScanCount}
    (tallies : Tallies root origin files before after) :
    Adds root origin files before.1.declarations after.1.declarations where
  kept := by
    rw [tallies.index_eq]
    simpa using subset_declarations_offer (before.1.registerAll files) _
  declared file member key kind named := by
    rw [tallies.index_eq]
    have offered : ⟨key, file, origin⟩ ∈ files.filterMap (declarationOf? root origin) :=
      List.mem_filterMap.mpr ⟨file, member, declarationOf?_eq_some_iff.mpr ⟨kind, named, rfl, rfl⟩⟩
    exact exists_named_of_offered offered
  placed declaration member := by
    refine (tallies.offered member).imp_right ?_
    rintro ⟨file, -, declares⟩
    obtain ⟨kind, -, rfl, rfl⟩ := declarationOf?_eq_some_iff.mp declares
    exact ⟨rfl, kind⟩

/-- A scan tallies the files met by its walk, also when the walk ended early. -/
theorem exists_tallies_scan (index : SourceIndex) (origin : Origin)
    (directory : tree.isDirectory root = true) :
    ∃ count, Tallies root origin (tree.walk root).files (index, nothingScanned)
      ((index.scan tree root origin).1, count) := by
  have tallies := tallies_foldl root origin (tree.walk root).files (index, nothingScanned)
  refine ⟨(scanFiles root origin index (tree.walk root).files).2, ?_⟩
  rw [scan, if_pos directory]
  simp only
  cases (tree.walk root).stopped with
  | some cause => exact tallies
  | none => exact tallies

theorem adds_scan (index : SourceIndex) (origin : Origin)
    (directory : tree.isDirectory root = true) :
    Adds root origin (tree.walk root).files index.declarations
      (index.scan tree root origin).1.declarations := by
  obtain ⟨count, tallies⟩ := exists_tallies_scan index origin directory
  exact tallies.adds

/-- A scan with no error has walked its root to the end. -/
theorem finished_of_scan (directory : tree.isDirectory root = true)
    (scanned : (index.scan tree root origin).2 = .ok count) :
    (tree.walk root).stopped = none := by
  rw [scan, if_pos directory] at scanned
  simp only at scanned
  cases ended : (tree.walk root).stopped with
  | some cause => simp [ended] at scanned
  | none => rfl

/-- Scans keep sources in source files. -/
theorem SourcesInSourceFiles.scan (sources : index.SourcesInSourceFiles) (tree : FileTree)
    (root : FilePath) (origin : Origin) :
    (index.scan tree root origin).1.SourcesInSourceFiles := by
  by_cases directory : tree.isDirectory root = true
  · intro declaration member source
    rcases (adds_scan index origin directory).placed declaration member with
      earlier | ⟨same, placed⟩
    · exact sources declaration earlier source
    · rwa [← same, source] at placed
  · rw [SourceIndex.scan, if_neg directory]
    exact sources

theorem declares_classFile (root : FilePath) (name : ClassName) (origin : Origin) :
    declares origin (root.join name.classFile) = decide (origin = .library) := by
  unfold declares
  rw [name.extension?_join root]
  cases origin <;> rfl

/-- A library root that was scanned with no error declares every class whose file it held. -/
theorem declared_of_scan (directory : tree.isDirectory root = true) (name : ClassName)
    (file : tree.isFile (root.join name.classFile) = true)
    (scanned : (index.scan tree root .library).2 = .ok count) :
    ∃ declaration ∈ (index.scan tree root .library).1.declarations,
      declaration.name = name.indexKey := by
  have finished := finished_of_scan directory scanned
  have met : root.join name.classFile ∈ (tree.walk root).files := by
    rw [name.classFile_eq] at file ⊢
    exact FileTree.mem_files_walk name.fileNames_ne_nil name.plain_fileNames directory file finished
  refine (adds_scan index .library directory).declared _ met _ ?_ (declaredKey?_join root name)
  simp [declares_classFile]

end SourceIndex
end ClassEnhancement
