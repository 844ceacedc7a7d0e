import ClassEnhancement.ClassFile.Input
import ClassEnhancement.Enhance.Command
import ClassEnhancement.Proofs.Batch.Rewriting
import ClassEnhancement.Proofs.FileTree.Canonical
import ClassEnhancement.Proofs.OrderedMap.Insertion

/-!
# Texts beside class files

A compiled set that was read from files names each class file by its absolute path.  A batch over
such a set overwrites some of these class files and nothing else, unless its transformer reaches
outside.  A class file is no text, so every text reads as before.
-/

namespace ClassEnhancement

variable {tree after : FileTree} {path : FilePath} {paths : List FilePath}
  {compiled : CompiledSet} {name : ClassName} {file : FilePath}

/-! ## Class files are no texts -/

/-- A class file begins with the number of class files. -/
theorem magic_of_header {bytes : Bytes} {header : ClassHeader}
    (read : ClassHeader.read bytes = .ok header) : ∃ rest, bytes = classMagic ++ rest := by
  rw [ClassHeader.read, ClassFile.takeBytes] at read
  split at read
  · by_cases magic : bytes.take 4 = classMagic
    · exact ⟨bytes.drop 4, by rw [← magic, List.take_append_drop]⟩
    · simp [bind, Except.bind, magic] at read
  · cases read

/-- The second octet of a class file goes on with no character. -/
theorem decode_ne_ok_of_header {bytes : Bytes} {header : ClassHeader}
    (read : ClassHeader.read bytes = .ok header) (text : String) :
    Utf8.decode bytes ≠ .ok text := by
  obtain ⟨rest, rfl⟩ := magic_of_header read
  have broken : Utf8.head 0xca (0xfe :: 0xba :: 0xbe :: rest) = .broken 0 := rfl
  simp [classMagic, Utf8.decode, Utf8.decodeChars, Utf8.decodeFrom, broken]

/-! ## Lists that are read in order -/

section InOrder

variable {ε α β : Type} {read : α → Except ε β} {inputs : List α}

/-- A list that is read gives one output for each input, in order. -/
theorem mapM_eq_ok_iff {outputs : List β} :
    inputs.mapM read = .ok outputs ↔
      List.Forall₂ (fun input output => read input = .ok output) inputs outputs := by
  induction inputs generalizing outputs with
  | nil => simp [pure, Except.pure, eq_comm]
  | cons input rest hypothesis =>
      rw [List.mapM_cons, List.forall₂_cons_left_iff]
      simp only [← hypothesis]
      cases read input with
      | error cause => simp [bind, Except.bind]
      | ok output => cases rest.mapM read <;> simp [bind, Except.bind, pure, Except.pure, eq_comm]

theorem mapM_cons_eq_error_iff {input : α} {error : ε} :
    (input :: inputs).mapM read = .error error ↔
      read input = .error error ∨
        (∃ output, read input = .ok output) ∧ inputs.mapM read = .error error := by
  rw [List.mapM_cons]
  cases read input <;> cases inputs.mapM read <;> simp [bind, Except.bind, pure, Except.pure]

/-- The first input that cannot be read ends the reading. -/
theorem mapM_eq_error_iff {error : ε} :
    inputs.mapM read = .error error ↔
      ∃ front input back, inputs = front ++ input :: back ∧
        (∀ earlier ∈ front, ∃ output, read earlier = .ok output) ∧ read input = .error error := by
  induction inputs with
  | nil => simp [pure, Except.pure]
  | cons input rest hypothesis =>
      rw [mapM_cons_eq_error_iff, hypothesis]
      constructor
      · rintro (refused | ⟨used, front, other, back, rfl, usable, refused⟩)
        · exact ⟨[], input, rest, rfl, nofun, refused⟩
        · exact ⟨input :: front, other, back, rfl, List.forall_mem_cons.mpr ⟨used, usable⟩, refused⟩
      · rintro ⟨_ | ⟨earlier, front⟩, other, back, split, usable, refused⟩
        · cases split
          exact .inl refused
        · cases split
          obtain ⟨used, later⟩ := List.forall_mem_cons.mp usable
          exact .inr ⟨used, front, other, back, rfl, later, refused⟩

end InOrder

/-! ## Compiled sets from files -/

namespace CompiledSet

/-- The class file that a path leads to. -/
structure IsClassFile (tree : FileTree) (path : FilePath) (name : ClassName) (file : FilePath) :
    Prop where
  /-- The header names the class. -/
  header : ∃ bytes header, tree.read path = .ok bytes ∧ ClassHeader.read bytes = .ok header ∧
    header.name = name
  /-- The file is named by where it is. -/
  absolute : ∃ location, tree.locate path = .ok location ∧ file = FileTree.pathOf location

theorem entryOfFile_eq_ok_iff :
    entryOfFile tree path = .ok (name, file) ↔ IsClassFile tree path name file := by
  constructor
  · intro entry
    rw [entryOfFile] at entry
    split at entry
    · cases entry
    next bytes held =>
    split at entry
    · cases entry
    next header read =>
    split at entry
    · cases entry
    next absolute canonical =>
    cases entry
    refine ⟨⟨bytes, header, held, read, rfl⟩, ?_⟩
    rw [FileTree.canonical] at canonical
    split at canonical
    · next location located =>
        cases canonical
        exact ⟨location, located, rfl⟩
    · cases canonical
  · rintro ⟨⟨bytes, header, held, read, rfl⟩, location, located, rfl⟩
    simp only [entryOfFile, held, read, FileTree.canonical, located]

/-- Entries of a compiled set, each with the path that it comes from. -/
abbrev EntriesOf (tree : FileTree) : List FilePath → List (ClassName × FilePath) → Prop :=
  List.Forall₂ fun path entry => entryOfFile tree path = .ok entry

theorem ofFiles_eq_ok_iff :
    ofFiles tree paths = .ok compiled ↔
      ∃ entries, EntriesOf tree paths entries ∧ compiled = .ofList entries := by
  simp only [EntriesOf, ← mapM_eq_ok_iff, ofFiles]
  cases paths.mapM (entryOfFile tree) <;> simp [bind, Except.bind, pure, Except.pure, eq_comm]

theorem ofFiles_eq_error_iff {error : InputError} :
    ofFiles tree paths = .error error ↔
      ∃ front path back, paths = front ++ path :: back ∧
        (∀ earlier ∈ front, ∃ entry, entryOfFile tree earlier = .ok entry) ∧
        entryOfFile tree path = .error error := by
  rw [← mapM_eq_error_iff, ofFiles]
  cases paths.mapM (entryOfFile tree) <;> simp [bind, Except.bind, pure, Except.pure]

theorem exists_ofFiles_of_usable
    (usable : ∀ path ∈ paths, ∃ entry, entryOfFile tree path = .ok entry) :
    ∃ compiled, ofFiles tree paths = .ok compiled := by
  cases made : ofFiles tree paths with
  | ok compiled => exact ⟨compiled, rfl⟩
  | error error =>
      obtain ⟨front, path, back, rfl, -, refused⟩ := ofFiles_eq_error_iff.mp made
      obtain ⟨entry, used⟩ := usable path (by simp)
      cases used.symm.trans refused

/-- Files are read one after another, each for an entry of its own. -/
theorem mem_of_entriesOf {entries : List (ClassName × FilePath)}
    (read : EntriesOf tree paths entries) :
    (∀ entry ∈ entries, ∃ path ∈ paths, entryOfFile tree path = .ok entry) ∧
      ∀ path ∈ paths, ∃ entry ∈ entries, entryOfFile tree path = .ok entry := by
  induction read with
  | nil => exact ⟨nofun, nofun⟩
  | cons first _ hypothesis =>
      obtain ⟨given, used⟩ := hypothesis
      simp only [List.forall_mem_cons, List.exists_mem_cons_iff]
      exact ⟨⟨.inl first, fun entry listed => .inr (given entry listed)⟩, .inl first,
        fun path member => .inr (used path member)⟩

/-- Every file of a compiled set is one that was given. -/
theorem exists_isClassFile (read : ofFiles tree paths = .ok compiled)
    (listed : (name, file) ∈ compiled.entries) :
    ∃ path ∈ paths, IsClassFile tree path name file := by
  obtain ⟨entries, found, rfl⟩ := ofFiles_eq_ok_iff.mp read
  have last := OrderedMap.find?_of_mem listed
  rw [OrderedMap.find?_ofList] at last
  obtain ⟨front, back, split, -⟩ := List.lookup_eq_some_iff.mp last
  have given : (name, file) ∈ entries := by
    rw [← List.mem_reverse, split]
    simp
  obtain ⟨path, member, entry⟩ := (mem_of_entriesOf found).1 _ given
  exact ⟨path, member, entryOfFile_eq_ok_iff.mp entry⟩

/-- The class of every file that is given is in the compiled set. -/
theorem mem_keys_of_given (read : ofFiles tree paths = .ok compiled) (member : path ∈ paths)
    (given : IsClassFile tree path name file) : name ∈ compiled.keys := by
  obtain ⟨entries, found, rfl⟩ := ofFiles_eq_ok_iff.mp read
  obtain ⟨entry, listed, entry_eq⟩ := (mem_of_entriesOf found).2 path member
  obtain rfl := Except.ok.inj (entry_eq.symm.trans (entryOfFile_eq_ok_iff.mpr given))
  exact OrderedMap.mem_keys_ofList.mpr (List.mem_map_of_mem listed)

theorem keys_ne_nil (read : ofFiles tree paths = .ok compiled) (some_path : paths ≠ []) :
    compiled.keys ≠ [] := by
  obtain ⟨path, rest, rfl⟩ := List.exists_cons_of_ne_nil some_path
  obtain ⟨entries, found, rfl⟩ := ofFiles_eq_ok_iff.mp read
  obtain ⟨entry, listed, -⟩ := (mem_of_entriesOf found).2 path List.mem_cons_self
  exact List.ne_nil_of_mem (OrderedMap.mem_keys_ofList.mpr (List.mem_map_of_mem listed))

/-- A file of a compiled set is no text. -/
theorem not_text_of_listed (grounded : tree.IsGrounded) (read : ofFiles tree paths = .ok compiled)
    (listed : (name, file) ∈ compiled.entries) {location : Location}
    (located : tree.locate file = .ok location) :
    ∃ bytes, tree.lookup? location = some (.file bytes) ∧ ∀ text, Utf8.decode bytes ≠ .ok text := by
  obtain ⟨path, -, given⟩ := exists_isClassFile read listed
  obtain ⟨place, path_located, rfl⟩ := given.absolute
  obtain ⟨bytes, header, held, header_read, -⟩ := given.header
  obtain ⟨there, there_located, found⟩ := FileTree.read_eq_ok_iff.mp held
  obtain rfl := Except.ok.inj (path_located.symm.trans there_located)
  obtain rfl := FileTree.location_of_pathOf grounded path_located found located
  exact ⟨bytes, found, decode_ne_ok_of_header header_read⟩

end CompiledSet

/-! ## Commands that change no file -/

namespace TransformCommand

/-- A command that changes no file itself, whatever class it is run for. -/
def ChangesNothing (programs : Programs) (command : TransformCommand) : Prop :=
  ∀ program arguments, command.words = program :: arguments →
    ∀ tree options packages name bytes,
      (programs.run tree (invocation program arguments options packages name bytes)).1 = tree

theorem leavesFiles_logged {σ : Type} (errors : Bytes) {next : Work σ} (leaves : next.LeavesFiles) :
    (logged errors next).LeavesFiles := by
  rw [logged]
  split
  · exact leaves
  · exact leaves

theorem leavesFiles_conclude {σ : Type} (program : String) (state : σ) (name : ClassName)
    (ended : Except FileError Execution) : (conclude program state name ended).LeavesFiles := by
  cases ended with
  | error cause => trivial
  | ok execution => exact leavesFiles_logged _ trivial

theorem leavesFiles_factory {σ : Type} {programs : Programs} {command : TransformCommand}
    (quiet : command.ChangesNothing programs) :
    (factory (σ := σ) programs command).LeavesFiles := by
  intro agent options packages ready transformer created state name bytes
  rw [factory] at created
  dsimp only at created
  split at created
  · cases created
  · next program arguments words =>
      cases created
      exact ⟨fun tree => quiet program arguments words tree options packages name bytes,
        fun _ => leavesFiles_conclude _ _ _ _⟩

end TransformCommand

/-! ## Reading after a batch -/

/-- A path leads to a text, or to nothing that can be read. -/
def FileTree.HoldsText (tree : FileTree) (path : FilePath) : Prop :=
  ∀ bytes, tree.read path = .ok bytes → ∃ text, Utf8.decode bytes = .ok text

theorem FileTree.holdsText_of_readText (text : tree.readText path ≠ .error .notText) :
    tree.HoldsText path := by
  intro bytes held
  cases decoded : Utf8.decode bytes with
  | ok content => exact ⟨content, rfl⟩
  | error fault => exact absurd (by simp only [readText, held, decoded]) text

/-- Every entry stays where it is, and every text as it is: only files that hold no text may have
other contents. -/
structure FileTree.KeepsTexts (before after : FileTree) : Prop
    extends SameShape before after where
  /-- A text reads as before, and so does a path that leads nowhere. -/
  read_eq : ∀ path, before.HoldsText path → after.read path = before.read path

theorem FileTree.KeepsTexts.refl (tree : FileTree) : tree.KeepsTexts tree where
  toSameShape := .refl tree
  read_eq _ _ := rfl

/-- A batch over class files that were given leaves every text as it is. -/
theorem Batch.keepsTexts_of_run {σ : Type} {batch : Batch σ} (layer : batch.context.layer = .plain)
    (leaves : batch.factory.LeavesFiles) {build : BuildState} (grounded : build.tree.IsGrounded)
    (read : CompiledSet.ofFiles build.tree paths = .ok batch.classes) (agent : σ) :
    build.tree.KeepsTexts (batch.run build agent).build.tree := by
  obtain ⟨rewrites, effect⟩ := effect_of_run
    (show batch.context.layer = FileLayer.plain.access from layer) leaves
  refine ⟨effect.sameShape, fun path text => ?_⟩
  refine effect.sameShape.read_eq fun location bytes located found => ?_
  refine effect.lookup?_untouched fun name file listed _ denoted => ?_
  -- The class file that was written is no text, so it is not the one that the path leads to.
  obtain ⟨other, found', no_text⟩ := CompiledSet.not_text_of_listed grounded read listed denoted
  cases found.symm.trans found'
  obtain ⟨held, decoded⟩ := text bytes (FileTree.read_eq_ok_iff.mpr ⟨location, located, found⟩)
  exact no_text held decoded

end ClassEnhancement
