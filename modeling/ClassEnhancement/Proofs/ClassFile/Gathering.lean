import ClassEnhancement.ClassFile.Encoding
import ClassEnhancement.Proofs.Batch.Bystanders
import ClassEnhancement.Proofs.Source.Spelling

/-!
# What a list of class files gathers

Class files are read in the order in which they are listed.  The first that cannot be used ends the
reading.  Otherwise the classes stand in the order of their first files, each with the absolute path
of its last one, and a file that is listed under several spellings, or behind links, stands once.
-/

namespace ClassEnhancement
namespace CompiledSet

/-! ## One file -/

/-- Why a listed file cannot be used, tried in this order. -/
inductive Refuses (tree : FileTree) (path : FilePath) : InputError → Prop where
  /-- The file cannot be read. -/
  | unread {cause : FileError} (unread : tree.read path = .error cause) :
      Refuses tree path (.unreadable path cause)
  /-- The file does not begin with the header of a class. -/
  | unclassed {bytes : Bytes} {cause : HeaderError} (held : tree.read path = .ok bytes)
      (malformed : ClassHeader.read bytes = .error cause) :
      Refuses tree path (.notClassFile path cause)
  /-- The file has no absolute path. -/
  | unplaced {bytes : Bytes} {header : ClassHeader} {cause : FileError}
      (held : tree.read path = .ok bytes) (headed : ClassHeader.read bytes = .ok header)
      (unplaced : tree.canonical path = .error cause) : Refuses tree path (.unreadable path cause)

/-- A file that can be read as a class file and has an absolute path. -/
def IsUsable (tree : FileTree) (path : FilePath) : Prop := ∀ error, ¬ Refuses tree path error

/-- The class that the header of a file names. -/
def classAt? (tree : FileTree) (path : FilePath) : Option ClassName := do
  let bytes ← (tree.read path).toOption
  let header ← (ClassHeader.read bytes).toOption
  return header.name

/-- The last listed file with a class. -/
def IsLast (tree : FileTree) (paths : List FilePath) (name : ClassName) (path : FilePath) : Prop :=
  ∃ front back, paths = front ++ path :: back ∧ classAt? tree path = some name ∧
    ∀ later ∈ back, classAt? tree later ≠ some name

variable {tree : FileTree} {path file : FilePath} {paths : List FilePath} {compiled : CompiledSet}
  {name : ClassName} {error : InputError} {location : Location}

theorem entryOfFile_eq_error_iff :
    entryOfFile tree path = .error error ↔ Refuses tree path error := by
  constructor
  · intro refused
    rw [entryOfFile] at refused
    split at refused
    · next unread =>
        cases refused
        exact .unread unread
    next held =>
    split at refused
    · next malformed =>
        cases refused
        exact .unclassed held malformed
    next headed =>
    split at refused
    · next unplaced =>
        cases refused
        exact .unplaced held headed unplaced
    · cases refused
  · rintro (unread | ⟨held, malformed⟩ | ⟨held, headed, unplaced⟩)
    · simp only [entryOfFile, unread]
    · simp only [entryOfFile, held, malformed]
    · simp only [entryOfFile, held, headed, unplaced]

theorem isUsable_iff : IsUsable tree path ↔ ∃ entry, entryOfFile tree path = .ok entry := by
  simp only [IsUsable, ← entryOfFile_eq_error_iff]
  cases entryOfFile tree path <;> simp

theorem classAt?_eq_some_iff :
    classAt? tree path = some name ↔
      ∃ bytes header, tree.read path = .ok bytes ∧ ClassHeader.read bytes = .ok header ∧
        header.name = name := by
  rw [classAt?]
  cases held : tree.read path with
  | error cause => simp [Except.toOption]
  | ok bytes => cases read : ClassHeader.read bytes <;> simp [Except.toOption, read]

theorem isClassFile_iff :
    IsClassFile tree path name file ↔
      classAt? tree path = some name ∧ tree.canonical path = .ok file := by
  rw [classAt?_eq_some_iff]
  have placed : tree.canonical path = .ok file ↔
      ∃ location, tree.locate path = .ok location ∧ file = FileTree.pathOf location := by
    rw [FileTree.canonical]
    cases tree.locate path <;> simp [eq_comm]
  rw [placed]
  exact ⟨fun given => ⟨given.header, given.absolute⟩, fun both => ⟨both.1, both.2⟩⟩

theorem entryOfFile_iff {entry : ClassName × FilePath} :
    entryOfFile tree path = .ok entry ↔
      classAt? tree path = some entry.1 ∧ tree.canonical path = .ok entry.2 :=
  entryOfFile_eq_ok_iff.trans isClassFile_iff

/-- What a file holds depends on where its path leads, not on how that is spelled. -/
theorem classAt?_congr {other : FilePath} (same : tree.locate path = tree.locate other) :
    classAt? tree path = classAt? tree other := by
  rw [classAt?, classAt?, FileTree.read, FileTree.read, same]

theorem isLast_cons_iff {last : FilePath} :
    IsLast tree (path :: paths) name last ↔
      IsLast tree paths name last ∨
        path = last ∧ classAt? tree path = some name ∧
          ∀ later ∈ paths, classAt? tree later ≠ some name := by
  constructor
  · rintro ⟨_ | ⟨earlier, front⟩, back, split, named, others⟩
    · cases split
      exact .inr ⟨rfl, named, others⟩
    · cases split
      exact .inl ⟨front, back, rfl, named, others⟩
  · rintro (⟨front, back, rfl, named, others⟩ | ⟨rfl, named, others⟩)
    · exact ⟨path :: front, back, rfl, named, others⟩
    · exact ⟨[], paths, rfl, named, others⟩

/-! ## The whole list -/

/-- The set that a list of files stands for. -/
structure Gathers (tree : FileTree) (paths : List FilePath) (compiled : CompiledSet) : Prop where
  /-- Every file can be used. -/
  usable : ∀ path ∈ paths, IsUsable tree path
  /-- The classes are those that the headers name, each where it is named first. -/
  classes : compiled.keys = (paths.filterMap (classAt? tree)).eraseDups
  /-- The last file with a class counts, under its absolute path. -/
  files : ∀ name file, compiled.fileOf? name.dotted = some file ↔
    ∃ path, IsLast tree paths name path ∧ tree.canonical path = .ok file

variable {entries : List (ClassName × FilePath)}

theorem classes_of_entriesOf (read : EntriesOf tree paths entries) :
    entries.map Prod.fst = paths.filterMap (classAt? tree) := by
  induction read with
  | nil => rfl
  | cons first _ hypothesis =>
      rw [List.map_cons, List.filterMap_cons_some (entryOfFile_iff.mp first).1, hypothesis]

theorem keys_of_entriesOf (read : EntriesOf tree paths entries) :
    (OrderedMap.ofList entries).keys = (paths.filterMap (classAt? tree)).eraseDups := by
  rw [OrderedMap.keys_ofList, classes_of_entriesOf read]

/-- A class stands for the last file that has it. -/
theorem find?_of_entriesOf (read : EntriesOf tree paths entries) :
    (OrderedMap.ofList entries).find? name = some file ↔
      ∃ path, IsLast tree paths name path ∧ tree.canonical path = .ok file := by
  -- From the back: a file counts as long as none that follows it has its class.
  induction read with
  | nil =>
      simp only [IsLast, List.nil_eq_append_iff]
      simp [OrderedMap.find?_ofList]
  | @cons path entry rest others first later hypothesis =>
      have absent : name ∉ (OrderedMap.ofList others).keys ↔
          ∀ later ∈ rest, classAt? tree later ≠ some name := by
        rw [keys_of_entriesOf later, List.mem_eraseDups, List.mem_filterMap]
        simp
      have given : entry = (name, file) ↔
          classAt? tree path = some name ∧ tree.canonical path = .ok file := by
        rw [← Except.ok.injEq, ← first, entryOfFile_iff]
      rw [OrderedMap.find?_ofList_cons_eq_some_iff, hypothesis, absent, given]
      simp only [isLast_cons_iff, or_and_right, exists_or, and_assoc, exists_eq_left']
      exact or_congr_right and_left_comm

theorem gathers_of_ofFiles (read : ofFiles tree paths = .ok compiled) :
    Gathers tree paths compiled := by
  obtain ⟨entries, found, rfl⟩ := ofFiles_eq_ok_iff.mp read
  refine ⟨fun path member => isUsable_iff.mpr ?_, keys_of_entriesOf found, fun name file => ?_⟩
  · obtain ⟨entry, -, used⟩ := (mem_of_entriesOf found).2 path member
    exact ⟨entry, used⟩
  · rw [fileOf?_dotted, find?_of_entriesOf found]

/-- A list of files stands for one set at most. -/
theorem Gathers.unique {other : CompiledSet} (one : Gathers tree paths compiled)
    (two : Gathers tree paths other) : compiled = other := by
  refine OrderedMap.eq_of_keys_of_find? (one.classes.trans two.classes.symm) fun name =>
    Option.ext fun file => ?_
  rw [← fileOf?_dotted, ← fileOf?_dotted, one.files, two.files]

theorem ofFiles_eq_ok_iff_gathers :
    ofFiles tree paths = .ok compiled ↔ Gathers tree paths compiled := by
  refine ⟨gathers_of_ofFiles, fun gathers => ?_⟩
  obtain ⟨other, read⟩ :=
    exists_ofFiles_of_usable fun path member => isUsable_iff.mp (gathers.usable path member)
  rw [read, gathers.unique (gathers_of_ofFiles read)]

/-! ## One file under several paths -/

/-- A file stands once, however many of the listed paths lead to it. -/
structure NamesOnce (tree : FileTree) (paths : List FilePath) (compiled : CompiledSet) :
    Prop where
  /-- The paths that lead to one place have one class, which is listed once. -/
  shared : ∀ path ∈ paths, ∀ location, tree.locate path = .ok location →
    ∃ name, compiled.keys.count name = 1 ∧
      ∀ other ∈ paths, tree.locate other = .ok location → classAt? tree other = some name
  /-- A class whose files are all in one place stands for that place. -/
  settled : ∀ name ∈ compiled.keys, ∀ location,
    (∀ path ∈ paths, classAt? tree path = some name → tree.locate path = .ok location) →
      compiled.fileOf? name.dotted = some (FileTree.pathOf location)
  /-- No file stands for two classes. -/
  distinct : tree.IsGrounded → (compiled.entries.map Prod.snd).Nodup
  /-- Other paths to the same places give the same set. -/
  respelled : ∀ others, List.Forall₂ (fun path other => tree.locate path = tree.locate other)
    paths others → ofFiles tree others = .ok compiled

theorem exists_isLast (gathers : Gathers tree paths compiled) (listed : name ∈ compiled.keys) :
    ∃ path file, IsLast tree paths name path ∧ tree.canonical path = .ok file ∧
      compiled.fileOf? name.dotted = some file := by
  cases found : compiled.find? name with
  | none => exact absurd listed (OrderedMap.find?_eq_none_iff.mp found)
  | some file =>
      rw [← fileOf?_dotted] at found
      obtain ⟨path, last, placed⟩ := (gathers.files name file).mp found
      exact ⟨path, file, last, placed, found⟩

/-- Class files with one absolute path are in one place. -/
theorem locate_eq_of_isClassFile (grounded : tree.IsGrounded) {other : FilePath}
    {otherName : ClassName} (one : IsClassFile tree path name file)
    (two : IsClassFile tree other otherName file) : tree.locate path = tree.locate other := by
  have below : ∀ {path name location}, IsClassFile tree path name file →
      tree.locate path = .ok location → location ≠ [] := by
    rintro path name _ given located rfl
    obtain ⟨bytes, _, held, -⟩ := given.header
    obtain ⟨there, reached, found⟩ := FileTree.read_eq_ok_iff.mp held
    cases located.symm.trans reached
    cases found
  obtain ⟨place, located, rfl⟩ := one.absolute
  obtain ⟨elsewhere, reached, same⟩ := two.absolute
  rw [located, reached, FileTree.eq_of_pathOf_eq (below one located)
    (FileTree.isReachable_of_locate grounded located).plain (below two reached)
    (FileTree.isReachable_of_locate grounded reached).plain same]

theorem EntriesOf.respelled {others : List FilePath}
    (same : List.Forall₂ (fun path other => tree.locate path = tree.locate other) paths others)
    (read : EntriesOf tree paths entries) : EntriesOf tree others entries := by
  induction same generalizing entries with
  | nil => exact read
  | cons alike _ hypothesis =>
      cases read with
      | cons first later =>
          refine .cons (entryOfFile_iff.mpr ?_) (hypothesis later)
          rw [← classAt?_congr alike, FileTree.canonical, ← alike]
          exact entryOfFile_iff.mp first

theorem namesOnce_of_ofFiles (read : ofFiles tree paths = .ok compiled) :
    NamesOnce tree paths compiled := by
  have gathers := gathers_of_ofFiles read
  constructor
  case shared =>
    intro path member location located
    obtain ⟨⟨name, file⟩, used⟩ := isUsable_iff.mp (gathers.usable path member)
    have listed := mem_keys_of_given read member (entryOfFile_eq_ok_iff.mp used)
    refine ⟨name, List.count_eq_one_of_mem compiled.keys_nodup listed, fun other _ there => ?_⟩
    rw [classAt?_congr (there.trans located.symm)]
    exact (entryOfFile_iff.mp used).1
  case settled =>
    intro name listed location only
    obtain ⟨path, file, ⟨front, back, rfl, named, -⟩, placed, found⟩ := exists_isLast gathers listed
    rw [FileTree.canonical, only path (by simp) named] at placed
    rw [found, ← Except.ok.inj placed]
  case distinct =>
    intro grounded
    refine (List.Nodup.of_map _ compiled.distinct).map_on ?_
    rintro ⟨name, file⟩ listed ⟨other, _⟩ also rfl
    obtain ⟨path, -, one⟩ := exists_isClassFile read listed
    obtain ⟨elsewhere, -, two⟩ := exists_isClassFile read also
    have same := classAt?_congr (locate_eq_of_isClassFile grounded one two)
    rw [(isClassFile_iff.mp one).1, (isClassFile_iff.mp two).1] at same
    rw [Option.some.inj same]
  case respelled =>
    intro others alike
    obtain ⟨entries, found, rfl⟩ := ofFiles_eq_ok_iff.mp read
    exact ofFiles_eq_ok_iff.mpr ⟨entries, found.respelled alike, rfl⟩

/-- Reading a list of class files fails exactly if one of them cannot be used, with the error of the
first such file.  Otherwise the set has the classes of the headers in the order in which they come
up, each with the absolute path of the last file that has it, and no file twice. -/
theorem gathers_files (tree : FileTree) (paths : List FilePath) :
    (∀ error, ofFiles tree paths = .error error ↔
      ∃ front path back, paths = front ++ path :: back ∧
        (∀ earlier ∈ front, IsUsable tree earlier) ∧ Refuses tree path error) ∧
    ((∃ error, ofFiles tree paths = .error error) ↔ ∃ path ∈ paths, ¬ IsUsable tree path) ∧
    (∀ compiled, ofFiles tree paths = .ok compiled ↔ Gathers tree paths compiled) ∧
    ∀ compiled, ofFiles tree paths = .ok compiled → NamesOnce tree paths compiled := by
  refine ⟨?first, ?some, fun compiled => ofFiles_eq_ok_iff_gathers,
    fun compiled => namesOnce_of_ofFiles⟩
  case first =>
    intro error
    simp only [ofFiles_eq_error_iff, isUsable_iff, entryOfFile_eq_error_iff]
  case some =>
    constructor
    · rintro ⟨error, ended⟩
      obtain ⟨front, path, back, rfl, -, refused⟩ := ofFiles_eq_error_iff.mp ended
      exact ⟨path, by simp, fun usable => usable error (entryOfFile_eq_error_iff.mp refused)⟩
    · rintro ⟨path, member, unusable⟩
      cases read : ofFiles tree paths with
      | error error => exact ⟨error, rfl⟩
      | ok compiled => exact absurd ((gathers_of_ofFiles read).usable path member) unusable

/-- An output directory with two files for one class, a link to the first of them, and the file of
another class. -/
def linkedOutput : FileTree :=
  ((((FileTree.empty ["out"]).put ["out", "A.class"]
      (.file (ClassFile.minimalFile "a/A" "a/O"))).put
    ["out", "B.class"] (.file (ClassFile.minimalFile "a/B" "a/O"))).put
      ["out", "Old.class"] (.file (ClassFile.minimalFile "a/A" "a/P"))).put
        ["out", "Link.class"] (.link ⟨"A.class"⟩)

/-- The link is listed last and keeps the first place of its class; a missing file after it ends the
reading. -/
theorem gathers_files_linked :
    (∃ compiled,
      ofFiles linkedOutput [⟨"A.class"⟩, ⟨"./B.class"⟩, ⟨"Old.class"⟩, ⟨"Link.class"⟩] =
        .ok compiled ∧
      compiled.entries.map (fun entry => (entry.1.dotted, entry.2.text)) =
        [("a.A", "/out/A.class"), ("a.B", "/out/B.class")] ∧
      (compiled.entries.map Prod.snd).Nodup) ∧
    ofFiles linkedOutput [⟨"A.class"⟩, ⟨"Missing.class"⟩, ⟨"B.class"⟩] =
      .error (.unreadable ⟨"Missing.class"⟩ (.system .notFound)) := by
  have grounded : linkedOutput.IsGrounded :=
    (FileTree.isReachable_root linkedOutput).child rfl
      ⟨by decide, ⟨by decide, by decide⟩, by decide⟩
  constructor
  · obtain ⟨compiled, read, entries⟩ : ∃ compiled,
        ofFiles linkedOutput [⟨"A.class"⟩, ⟨"./B.class"⟩, ⟨"Old.class"⟩, ⟨"Link.class"⟩] =
          .ok compiled ∧
        compiled.entries.map (fun entry => (entry.1.dotted, entry.2.text)) =
          [("a.A", "/out/A.class"), ("a.B", "/out/B.class")] := ⟨_, rfl, rfl⟩
    exact ⟨compiled, read, entries,
      ((gathers_files linkedOutput _).2.2.2 compiled read).distinct grounded⟩
  · refine ((gathers_files linkedOutput _).1 _).mpr
      ⟨[⟨"A.class"⟩], ⟨"Missing.class"⟩, [⟨"B.class"⟩], rfl, ?_, .unread rfl⟩
    intro earlier member
    obtain rfl := List.mem_singleton.mp member
    exact isUsable_iff.mpr ⟨_, rfl⟩

end CompiledSet
end ClassEnhancement
