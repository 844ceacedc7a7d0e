import ClassEnhancement.Proofs.ClassFile.Faithfulness
import ClassEnhancement.Proofs.FileTree.Reached
import ClassEnhancement.Proofs.Source.Scanning

/-!
# What the paths of files declare

A file below a root declares a class where its path from the root, without its extension, is the
slash spelling of the class or the path of its class file.  So `Order.class.java` declares what
`Order.java` declares.  Any other dot that remains keeps a file from declaring anything.
-/

namespace ClassEnhancement
namespace FilePath

/-- What remains of the path from a root to a file when the extension of the file is taken off. -/
structure Remains (root file : FilePath) (extension rest : String) : Prop where
  /-- The file has the extension. -/
  extended : file.extension? = some extension
  /-- The names from the root to the file spell what remains, and the extension after a dot. -/
  spelled : ∃ names, names ≠ [] ∧ (∀ name ∈ names, IsPlain name) ∧ file = root.join (.ofNames names) ∧
    (ofNames names).text = rest ++ ("." ++ extension)

variable {root file : FilePath} {extension rest : String}

theorem splitExtension_eq {name stem : String}
    (cut : splitExtension name = (stem, some extension)) :
    name = stem ++ ("." ++ extension) := by
  rw [splitExtension] at cut
  split at cut
  · next before after found =>
      split at cut
      · cases cut
      · cases cut
        rw [← String.toList_inj, Text.eq_append_of_splitLast? found]
        simp
  · cases cut

/-- The last name of an extended path is a stem with the extension; the names before it stay. -/
theorem exists_stem {names : List String} (some_name : names ≠ [])
    (plain : ∀ name ∈ names, IsPlain name)
    (extended : (root.join (.ofNames names)).extension? = some extension) :
    ∃ front stem, names = front ++ [stem ++ ("." ++ extension)] ∧
      stemOf (stem ++ ("." ++ extension)) = stem := by
  obtain ⟨front, last, rfl⟩ := (List.eq_nil_or_concat' names).resolve_left some_name
  have last_name : (root.join (.ofNames (front ++ [last]))).fileName? = some last := by
    rw [fileName?, components_join root some_name plain]
    simp [Component.name?]
  rw [extension?, last_name, Option.bind_some] at extended
  have cut : splitExtension last = (stemOf last, some extension) := Prod.ext rfl extended
  refine ⟨front, stemOf last, by rw [← splitExtension_eq cut], ?_⟩
  rw [← splitExtension_eq cut]

/-- A file below a root that has an extension is some text with that extension from there. -/
theorem exists_remains {tree : FileTree} (below : tree.IsBelow root file)
    (extended : file.extension? = some extension) : ∃ rest, Remains root file extension rest := by
  obtain ⟨names, ⟨some_name, plain, -⟩, rfl⟩ := below
  obtain ⟨front, stem, rfl, -⟩ := exists_stem some_name plain extended
  exact ⟨"/".intercalate (front ++ [stem]), extended, _, some_name, plain, rfl,
    ClassName.intercalate_concat "/" stem _ front⟩

end FilePath

namespace ClassName

variable {name : ClassName} {text : String}

theorem toOption_ofSlashed_eq_some_iff :
    (ofSlashed text).toOption = some name ↔ text = name.slashed ∨ text = name.classFile.text := by
  rw [← ofSlashed_eq_ok_iff]
  cases ofSlashed text <;> simp [Except.toOption]

/-- The spellings for class loaders hold no hyphen. -/
theorem hyphen_notMem_spelling (spelled : text = name.slashed ∨ text = name.classFile.text) :
    '-' ∉ text.toList := by
  have unhyphened := name.notMem_slashed isNameChar_hyphen (by decide)
  rcases spelled with rfl | rfl
  · exact unhyphened
  · rw [classFile, String.toList_append, List.mem_append, not_or]
    exact ⟨unhyphened, by decide⟩

/-- Neither do they end in a dot. -/
theorem not_spelling_of_dot (front : String) :
    ¬ (front ++ "." = name.slashed ∨ front ++ "." = name.classFile.text) := by
  rintro (same | same)
  · refine name.notMem_slashed isNameChar_dot (by decide) ?_
    rw [← same, String.toList_append]
    exact List.mem_append_right _ (by decide)
  · have last := congrArg (fun text => text.toList.getLast?) same
    have ending : classEnding.toList = ".clas".toList ++ ['s'] := by decide
    rw [classFile, String.toList_append, String.toList_append, ending, ← List.append_assoc] at last
    simp at last

end ClassName

namespace SourceIndex

open FilePath

variable {tree : FileTree} {index : SourceIndex} {root file : FilePath} {origin : Origin}
  {extension rest : String} {declaration : Declaration}

/-! ## One file -/

/-- What remains of the path of a file is read as a class loader would read it. -/
theorem declaredKey?_eq_some_iff (remains : Remains root file extension rest) {key : String} :
    declaredKey? root file = some key ↔
      ∃ name : ClassName, name.indexKey = key ∧
        (rest = name.slashed ∨ rest = name.classFile.text) := by
  obtain ⟨extended, names, some_name, plain, rfl, spelled⟩ := remains
  obtain ⟨front, stem, rfl, stem_eq⟩ := exists_stem some_name plain extended
  -- The name of the file goes on after its stem, in the path from the root as well.
  have before : ∀ last, "/".intercalate (front ++ [last]) =
      "/".intercalate (front ++ [""]) ++ last := fun last => by
    simpa using ClassName.intercalate_concat "/" "" last front
  have rest_eq : rest = "/".intercalate (front ++ [""]) ++ stem := by
    rw [ofNames, ClassName.intercalate_concat] at spelled
    rw [← before, (String.append_left_inj _).mp spelled]
  rw [declaredKey?_ofNames root plain, bareName, stem_eq, before, rest_eq]
  by_cases dot : stem = "."
  · have nothing : isDescriptor ".." = false := by decide
    have two : ".." = "." ++ "." := by decide
    rw [if_pos dot, nothing, two, ← String.append_assoc, dot]
    simp only [Bool.false_eq_true, if_false, Option.map_eq_some_iff,
      ClassName.toOption_ofSlashed_eq_some_iff, ClassName.not_spelling_of_dot, false_and, and_false,
      exists_false]
  · rw [if_neg dot]
    split
    · next descriptor =>
        have hyphen : '-' ∈ stem.toList := by
          rw [isDescriptor, Bool.or_eq_true, beq_iff_eq, beq_iff_eq] at descriptor
          rcases descriptor with rfl | rfl <;> decide
        simp only [reduceCtorEq, false_iff, not_exists, not_and]
        rintro name - spelling
        refine ClassName.hyphen_notMem_spelling spelling ?_
        rw [String.toList_append]
        exact List.mem_append_right _ hyphen
    · simp only [Option.map_eq_some_iff, ClassName.toOption_ofSlashed_eq_some_iff, and_comm]

/-- A dot that remains keeps a file from declaring, unless it begins the ending of class files. -/
theorem declaredKey?_eq_none (remains : Remains root file extension rest)
    (dotted : '.' ∈ rest.toList) (unended : ∀ name : ClassName, rest ≠ name.classFile.text) :
    declaredKey? root file = none := by
  refine Option.eq_none_iff_forall_ne_some.mpr fun key named => ?_
  obtain ⟨name, -, rfl | ended⟩ := (declaredKey?_eq_some_iff remains).mp named
  · exact name.notMem_slashed ClassName.isNameChar_dot (by decide) dotted
  · exact unended name ended

/-! ## A whole scan -/

theorem mem_declarations_scan (index : SourceIndex) (origin : Origin)
    (declared : declaration ∈ (index.scan tree root origin).1.declarations) :
    declaration ∈ index.declarations ∨
      ∃ file ∈ tree.reached root, declarationOf? root origin file = some declaration := by
  rw [FileTree.reached]
  by_cases directory : tree.isDirectory root = true
  · rw [if_pos directory]
    obtain ⟨count, tallies⟩ := exists_tallies_scan index origin directory
    exact tallies.offered declared
  · rw [scan, if_neg directory] at declared
    exact .inl declared

/-- What a scan of a root takes from the paths of the files below it. -/
structure DeclaresByPaths (tree : FileTree) (root : FilePath) (origin : Origin) : Prop where
  /-- The path of a file that may declare leaves something without the extension. -/
  remains : ∀ file, tree.IsBelow root file → declares origin file = true →
    ∃ extension rest, Remains root file extension rest
  /-- The file declares the classes of which that is the slash spelling, with or without the ending
  of class files. -/
  key_iff : ∀ file extension rest, Remains root file extension rest → ∀ key,
    declaredKey? root file = some key ↔ ∃ name : ClassName, name.indexKey = key ∧
      (rest = name.slashed ∨ rest = name.slashed ++ ".class")
  /-- With another dot in it the file is registered and counted, and nothing is declared. -/
  undeclared : ∀ file extension rest, Remains root file extension rest → '.' ∈ rest.toList →
    (∀ name : ClassName, rest ≠ name.slashed ++ ".class") → ∀ index count,
      scanFile root origin index count file =
        (index.register file, { count with files := count.files + 1 })
  /-- A scan declares nothing else. -/
  added : ∀ index : SourceIndex, ∀ declaration ∈ (index.scan tree root origin).1.declarations,
    declaration ∈ index.declarations ∨
      tree.IsBelow root declaration.file ∧ declares origin declaration.file = true ∧
        declaration.origin = origin ∧ declaredKey? root declaration.file = some declaration.name

/-- Scans declare by paths. -/
theorem declares_by_paths (sound : tree.IsSound) (root : FilePath) (origin : Origin) :
    DeclaresByPaths tree root origin where
  remains file below declaring := by
    cases extended : file.extension? with
    | none =>
        unfold declares at declaring
        rw [extended] at declaring
        cases declaring
    | some extension => exact ⟨extension, exists_remains below extended⟩
  key_iff file extension rest remains key := declaredKey?_eq_some_iff remains
  undeclared file extension rest remains dotted unended index count := by
    refine scanFile_of_nothing index count ?_
    rw [declarationOf?, declaredKey?_eq_none remains dotted unended]
    simp
  added index declaration declared := by
    refine (mem_declarations_scan index origin declared).imp_right ?_
    rintro ⟨file, met, offered⟩
    obtain ⟨declaring, named, rfl, same⟩ := declarationOf?_eq_some_iff.mp offered
    exact ⟨FileTree.isBelow_of_reached sound met, declaring, same, named⟩

/-! ## Dots in names -/

/-- A source root with a class, a file that is named for a test of it, and a class after which the
ending of class files is written as well. -/
def dottedTree : FileTree :=
  (((((FileTree.empty []).put ["src"] .directory).put ["src", "a"] .directory).put
    ["src", "a", "Order.java"] (.file [])).put ["src", "a", "Order.test.java"] (.file [])).put
    ["src", "a", "Item.class.java"] (.file [])

/-- Three files are registered, and two of them declare. -/
theorem declares_by_paths_dotted :
    dottedTree.IsSound ∧ DeclaresByPaths dottedTree ⟨"src"⟩ .source ∧
      empty.scan dottedTree ⟨"src"⟩ .source =
        (⟨[⟨"a.Order", ⟨"src/a/Order.java"⟩, .source⟩, ⟨"a.Item", ⟨"src/a/Item.class.java"⟩, .source⟩],
          [⟨"src/a/Order.java"⟩, ⟨"src/a/Order.test.java"⟩, ⟨"src/a/Item.class.java"⟩]⟩,
          .ok ⟨3, 2, 0⟩) := by
  have sound : dottedTree.IsSound := ⟨FileTree.isReachable_root _, by decide, by decide⟩
  exact ⟨sound, declares_by_paths sound ⟨"src"⟩ .source, by decide +kernel⟩

/-- Without its extension the path `a/Order.class.java` is no slash spelling, but a key is derived
for it, and a scan that meets it first refuses the class to `a/Order.java`. -/
theorem takes_key_of_class :
    Remains ⟨"s"⟩ ⟨"s/a/Order.class.java"⟩ "java" "a/Order.class" ∧
      (∀ name : ClassName, name.slashed ≠ "a/Order.class") ∧
      declaredKey? ⟨"s"⟩ ⟨"s/a/Order.class.java"⟩ = some "a.Order" ∧
      scanFiles ⟨"s"⟩ .source empty [⟨"s/a/Order.class.java"⟩, ⟨"s/a/Order.java"⟩] =
        (⟨[⟨"a.Order", ⟨"s/a/Order.class.java"⟩, .source⟩],
          [⟨"s/a/Order.class.java"⟩, ⟨"s/a/Order.java"⟩]⟩, ⟨2, 1, 1⟩) := by
  have remains : Remains ⟨"s"⟩ ⟨"s/a/Order.class.java"⟩ "java" "a/Order.class" :=
    ⟨by decide, ["a", "Order.class.java"], by decide, by decide, by decide, by decide⟩
  refine ⟨remains, fun name same => ?_, by decide +kernel, by decide +kernel⟩
  have dotted : '.' ∈ "a/Order.class".toList := by decide
  rw [← same] at dotted
  exact name.notMem_slashed ClassName.isNameChar_dot (by decide) dotted

end SourceIndex
end ClassEnhancement
