import ClassEnhancement.Enhance.Resolver

/-!
# The itinerary of a lookup

A lookup that recalls nothing has an itinerary that is known before any file is read: the files
that may hold the class, in order, each with the warnings that are due before it is read.  The
lookup passes the files that are absent.  The first other file gives the answer, also when it
cannot be read.
-/

namespace ClassEnhancement

/-- The bytes that were read. -/
def ReadOutcome.bytes? : ReadOutcome → Option Bytes
  | content bytes => some bytes
  | absent | unreadable _ => none

/-- A file that may hold a class. -/
structure Stop where
  /-- Warnings that are due before the file is read. -/
  warnings : List Message
  /-- The file. -/
  file : FilePath
  deriving DecidableEq

/-- Files that may hold a class, in order. -/
abbrev Itinerary := List Stop

namespace Itinerary

/-! ## Where a lookup goes -/

/-- Dotted spelling of a class path, nested classes as further segments. -/
def keyOf (classPath : String) : String :=
  String.ofList (classPath.toList.map fun c => if c = '/' ∨ c = '$' then '.' else c)

/-- The warning about an output directory that a module does not have. -/
def missing (owner : ProjectModule) (label : String) : Message :=
  .warning s!"{owner.name}: Couldn't find {label} output directory!"

/-- The warning about a class that no output directory of its module has. -/
def unfound (owner : ProjectModule) (classPath : String) : Message :=
  .warning s!"{owner.name}: Couldn't find compiled file for class: {classPath}"

/-- The main output, the test output and the declaring file, less the outputs that the module does
not have. -/
def ofOwner (owner : ProjectModule) (classPath : String) (declaring : FilePath) : Itinerary :=
  let compiled (directory : FilePath) := directory.join (Resolution.relativeFileOf classPath)
  let last := unfound owner classPath
  match owner.output, owner.testOutput with
  | some main, some test => [⟨[], compiled main⟩, ⟨[], compiled test⟩, ⟨[last], declaring⟩]
  | some main, none => [⟨[], compiled main⟩, ⟨[missing owner "test", last], declaring⟩]
  | none, some test => [⟨[missing owner "main"], compiled test⟩, ⟨[last], declaring⟩]
  | none, none => [⟨[missing owner "main", missing owner "test", last], declaring⟩]

/-- The itinerary of a class: the file of a fresh class, and else what its declaration tells. -/
def ofClass (context : BuildContext) (classes : CompiledSet) (classPath : String) : Itinerary :=
  match classes.fileOf? (Resolution.dottedOf classPath) with
  | some file => [⟨[], file⟩]
  | none =>
    match context.project.index.find? (keyOf classPath) with
    | none => []
    | some declaration =>
      match declaration.origin, context.project.moduleFor? declaration.file with
      | .source, some owner => ofOwner owner classPath declaration.file
      | _, _ => [⟨[], declaration.file⟩]

/-! ## What a lookup finds there -/

variable (context : BuildContext) (tree : FileTree)

/-- The stops up to the first one whose file is not absent. -/
def visited : Itinerary → List Stop
  | [] => []
  | stop :: rest =>
    if context.layer.read tree stop.file = .absent then stop :: visited rest else [stop]

/-- The bytes of the first file that is not absent, if it can be read. -/
def answer? (itinerary : Itinerary) : Option Bytes :=
  (itinerary.find? fun stop => decide (context.layer.read tree stop.file ≠ .absent)).bind
    fun stop => (context.layer.read tree stop.file).bytes?

/-- The warning about a class that is not found: it is not declared, or the file visited last
cannot be read. -/
def complaint (key : String) (visited : List Stop) : Message :=
  match visited.getLast? with
  | none => .warning s!"Couldn't find source declaration for class: {key}"
  | some stop => .warning s!"Error reading file contents: {stop.file.text}"

end Itinerary

/-- A lookup that goes along an itinerary. -/
structure Lookup.Follows (lookup : Lookup) (context : BuildContext) (tree : FileTree) (key : String)
    (itinerary : Itinerary) : Prop where
  /-- The first file that is not absent gives the answer. -/
  result : lookup.result = itinerary.answer? context tree
  /-- The warnings of the visited stops are given, and one about a class that is not found. -/
  warnings : lookup.warnings = (itinerary.visited context tree).flatMap Stop.warnings ++
    if lookup.result = none then [Itinerary.complaint key (itinerary.visited context tree)] else []

namespace Itinerary

variable {context : BuildContext} {tree : FileTree}

/-! ## Visits -/

@[simp]
theorem visited_of_absent {stop : Stop} {rest : Itinerary}
    (absent : context.layer.read tree stop.file = .absent) :
    visited context tree (stop :: rest) = stop :: visited context tree rest := by
  simp [visited, absent]

@[simp]
theorem visited_of_ne_absent {stop : Stop} {rest : Itinerary}
    (present : context.layer.read tree stop.file ≠ .absent) :
    visited context tree (stop :: rest) = [stop] := by
  simp [visited, present]

@[simp]
theorem visited_singleton (stop : Stop) : visited context tree [stop] = [stop] := by
  simp [visited]

theorem visited_subset (itinerary : Itinerary) : itinerary.visited context tree ⊆ itinerary := by
  induction itinerary with
  | nil => exact List.Subset.refl _
  | cons stop rest hypothesis =>
      by_cases absent : context.layer.read tree stop.file = .absent
      · rw [visited_of_absent absent]
        exact List.cons_subset_cons stop hypothesis
      · rw [visited_of_ne_absent absent]
        exact List.cons_subset_cons stop (List.nil_subset rest)

/-- The file visited last gives the answer. -/
theorem answer?_eq (itinerary : Itinerary) :
    itinerary.answer? context tree =
      (itinerary.visited context tree).getLast?.bind
        fun stop => (context.layer.read tree stop.file).bytes? := by
  induction itinerary with
  | nil => rfl
  | cons stop rest ih =>
      by_cases absent : context.layer.read tree stop.file = .absent
      · have passed : answer? context tree (stop :: rest) = answer? context tree rest := by
          simp [answer?, absent]
        rw [passed, ih, visited_of_absent absent]
        cases visited context tree rest with
        | nil => simp [absent, ReadOutcome.bytes?]
        | cons next others => rw [List.getLast?_cons_cons]
      · rw [visited_of_ne_absent absent]
        simp [answer?, absent]

/-- A search that ends at the file visited last, with the warnings of the visited stops. -/
structure Ends (context : BuildContext) (tree : FileTree) (itinerary : Itinerary) (last : Stop)
    (search : Resolution × List Message) : Prop where
  /-- The file is visited last. -/
  visits : (itinerary.visited context tree).getLast? = some last
  /-- The search comes to what the file holds. -/
  comes : search.1 = Resolution.ofFile context tree last.file
  /-- The warnings are those of the stops. -/
  warns : search.2 = (itinerary.visited context tree).flatMap Stop.warnings

theorem ends_singleton (file : FilePath) :
    Ends context tree [⟨[], file⟩] ⟨[], file⟩ (Resolution.ofFile context tree file, []) := by
  refine ⟨?_, rfl, ?_⟩
  · rw [visited_singleton, List.getLast?_singleton]
  · rw [visited_singleton, List.flatMap_singleton]

theorem ends_of_ne_absent {stop : Stop} {rest : Itinerary}
    (present : context.layer.read tree stop.file ≠ .absent) :
    Ends context tree (stop :: rest) stop
      (Resolution.ofFile context tree stop.file, stop.warnings) := by
  refine ⟨?_, rfl, ?_⟩
  · rw [visited_of_ne_absent present, List.getLast?_singleton]
  · rw [visited_of_ne_absent present, List.flatMap_singleton]

/-- The search goes on after an absent file. -/
theorem Ends.after_absent {stop last : Stop} {rest : Itinerary}
    {search : Resolution × List Message} (ends : Ends context tree rest last search)
    (absent : context.layer.read tree stop.file = .absent) :
    Ends context tree (stop :: rest) last (search.1, stop.warnings ++ search.2) := by
  refine ⟨?_, ends.comes, ?_⟩
  · rw [visited_of_absent absent, List.getLast?_cons, ends.visits]
    rfl
  · rw [visited_of_absent absent, List.flatMap_cons, ← ends.warns]

/-! ## The places of a module -/

/-- The itinerary through places, with warnings that are due before the first stop. -/
def through (owner : ProjectModule) (classPath : String) (declaring : FilePath) :
    List Message → List Resolution.Place → Itinerary
  | due, [] => [⟨due ++ [unfound owner classPath], declaring⟩]
  | due, place :: rest =>
    match place.directory with
    | none => through owner classPath declaring (due ++ [missing owner place.label]) rest
    | some directory =>
      ⟨due, directory.join (Resolution.relativeFileOf classPath)⟩
        :: through owner classPath declaring [] rest

/-- A search in places goes along the itinerary through them. -/
theorem ends_inPlaces (owner : ProjectModule) (classPath : String) (declaring : FilePath)
    (places : List Resolution.Place) (due : List Message) :
    ∃ last, Ends context tree (through owner classPath declaring due places) last
      ((Resolution.inPlaces context tree owner.name classPath declaring places).1,
        due ++ (Resolution.inPlaces context tree owner.name classPath declaring places).2) := by
  induction places generalizing due with
  | nil =>
      refine ⟨⟨due ++ [unfound owner classPath], declaring⟩, ?_, rfl, ?_⟩
      · rw [through, visited_singleton, List.getLast?_singleton]
      · rw [through, visited_singleton, List.flatMap_singleton]
        rfl
  | cons place rest ih =>
      obtain ⟨label, directory⟩ := place
      cases directory with
      | none =>
          obtain ⟨last, ends⟩ := ih (due ++ [missing owner label])
          rw [List.append_assoc, List.singleton_append] at ends
          simp only [through, Resolution.inPlaces]
          exact ⟨last, ends⟩
      | some directory =>
          simp only [through, Resolution.inPlaces]
          generalize directory.join (Resolution.relativeFileOf classPath) = file
          have ends_here : context.layer.read tree file ≠ .absent →
              Ends context tree (⟨due, file⟩ :: through owner classPath declaring [] rest)
                ⟨due, file⟩ (Resolution.ofFile context tree file, due ++ []) := by
            intro present
            rw [List.append_nil]
            exact ends_of_ne_absent present
          cases outcome : context.layer.read tree file with
          | content bytes =>
              have ends := ends_here (by simp [outcome])
              rw [Resolution.ofFile, outcome] at ends
              exact ⟨_, ends⟩
          | unreadable cause =>
              have ends := ends_here (by simp [outcome])
              rw [Resolution.ofFile, outcome] at ends
              exact ⟨_, ends⟩
          | absent =>
              obtain ⟨last, ends⟩ := ih []
              exact ⟨last, ends.after_absent outcome⟩

theorem through_placesOf (owner : ProjectModule) (classPath : String) (declaring : FilePath) :
    through owner classPath declaring [] (Resolution.placesOf owner) =
      ofOwner owner classPath declaring := by
  obtain ⟨name, output, testOutput, contentRoots⟩ := owner
  cases output with
  | none =>
      cases testOutput with
      | none => rfl
      | some test => rfl
  | some main =>
      cases testOutput with
      | none => rfl
      | some test => rfl

end Itinerary

/-! ## Strategies -/

namespace Resolution

variable {context : BuildContext} {tree : FileTree} {classes : CompiledSet} {classPath : String}

theorem indexKeyOf_eq (classPath : String) : indexKeyOf classPath = Itinerary.keyOf classPath := by
  rw [← String.toList_inj, indexKeyOf, Text.toList_replaceChar, Text.toList_replaceChar,
    Itinerary.keyOf, String.toList_ofList, List.map_map]
  refine List.map_congr_left fun c _ => ?_
  by_cases slash : c = '/'
  · simp [slash, nestedMark]
  · simp [slash, nestedMark]

theorem ofFile_eq (file : FilePath) :
    ofFile context tree file =
      match (context.layer.read tree file).bytes? with
      | some bytes => .found bytes
      | none => .failed (.unreadable file) := by
  rw [ofFile]
  cases context.layer.read tree file <;> rfl

theorem ofStrategy_stale (stale : classes.fileOf? (dottedOf classPath) = none) :
    ofStrategy context tree classes classPath .compiledSet = (.notApplicable, []) := by
  rw [ofStrategy, ofCompiledSet, stale]

theorem ofStrategy_fresh {file : FilePath}
    (fresh : classes.fileOf? (dottedOf classPath) = some file) :
    ofStrategy context tree classes classPath .compiledSet = (ofFile context tree file, []) := by
  rw [ofStrategy, ofCompiledSet, fresh]

/-- The index goes along the itinerary of a class that is declared and not fresh. -/
theorem ends_ofSourceIndex (stale : classes.fileOf? (dottedOf classPath) = none)
    {declaration : Declaration}
    (found : context.project.index.find? (Itinerary.keyOf classPath) = some declaration) :
    ∃ last, (Itinerary.ofClass context classes classPath).Ends context tree last
      (ofSourceIndex context tree classPath) := by
  simp only [Itinerary.ofClass, stale, found, ofSourceIndex, indexKeyOf_eq, ownerOf?]
  cases declaration.origin with
  | library => exact ⟨_, Itinerary.ends_singleton declaration.file⟩
  | source =>
      cases context.project.moduleFor? declaration.file with
      | none => exact ⟨_, Itinerary.ends_singleton declaration.file⟩
      | some owner =>
          obtain ⟨last, ends⟩ := Itinerary.ends_inPlaces owner classPath declaration.file
            (placesOf owner) []
          rw [Itinerary.through_placesOf] at ends
          exact ⟨last, ends⟩

end Resolution

/-! ## Lookups -/

namespace Resolver

variable {context : BuildContext} {tree : FileTree} {cache : ClassCache} {classPath : String}

theorem resolve_of_missed {retention : Retention}
    (missed : retention.recalled? cache classPath = none) (classes : CompiledSet) :
    (retaining retention classes).resolve context tree cache classPath =
      (retaining retention classes).ask context tree cache.asked classPath
        [.compiledSet, .sourceIndex] := by
  rw [resolve, retaining, missed]

theorem ask_of_notApplicable {resolver : Resolver} {strategy : Strategy} {rest : List Strategy}
    (passed : Resolution.ofStrategy context tree resolver.classes classPath strategy =
      (.notApplicable, [])) :
    resolver.ask context tree cache classPath (strategy :: rest) =
      resolver.ask context tree cache classPath rest := by
  rw [ask]
  simp only [passed, List.nil_append]

/-- A strategy that goes along an itinerary answers the lookup. -/
theorem follows_of_ends {resolver : Resolver} {strategy : Strategy} {rest : List Strategy}
    {itinerary : Itinerary} {last : Stop}
    (ends : itinerary.Ends context tree last
      (Resolution.ofStrategy context tree resolver.classes classPath strategy)) (key : String) :
    (resolver.ask context tree cache classPath (strategy :: rest)).Follows context tree key
      itinerary := by
  rw [ask]
  generalize Resolution.ofStrategy context tree resolver.classes classPath strategy = search at ends
  obtain ⟨resolution, warnings⟩ := search
  obtain ⟨visits, comes, warns⟩ := ends
  have answer : itinerary.answer? context tree =
      (context.layer.read tree last.file).bytes? := by
    rw [Itinerary.answer?_eq, visits, Option.bind_some]
  rw [Resolution.ofFile_eq] at comes
  cases held : (context.layer.read tree last.file).bytes? with
  | some bytes =>
      rw [held] at answer comes
      subst comes
      exact ⟨answer.symm, by simpa using warns⟩
  | none =>
      rw [held] at answer comes
      subst comes
      refine ⟨answer.symm, ?_⟩
      simp only [if_true, Itinerary.complaint, visits]
      rw [← warns]
      rfl

/-- Both strategies together go along the itinerary of the class. -/
theorem ask_follows (resolver : Resolver) (context : BuildContext) (tree : FileTree)
    (cache : ClassCache) (classPath : String) :
    (resolver.ask context tree cache classPath [.compiledSet, .sourceIndex]).Follows context tree
      (Itinerary.keyOf classPath) (.ofClass context resolver.classes classPath) := by
  cases fresh : resolver.classes.fileOf? (Resolution.dottedOf classPath) with
  | some file =>
      have ends : (Itinerary.ofClass context resolver.classes classPath).Ends context tree
          ⟨[], file⟩
          (Resolution.ofStrategy context tree resolver.classes classPath .compiledSet) := by
        rw [Resolution.ofStrategy_fresh fresh, Itinerary.ofClass, fresh]
        exact Itinerary.ends_singleton file
      exact follows_of_ends ends _
  | none =>
      rw [ask_of_notApplicable (Resolution.ofStrategy_stale fresh)]
      cases found : context.project.index.find? (Itinerary.keyOf classPath) with
      | some declaration =>
          obtain ⟨last, ends⟩ := Resolution.ends_ofSourceIndex fresh found
          exact follows_of_ends ends _
      | none =>
          have nowhere : Itinerary.ofClass context resolver.classes classPath = [] := by
            rw [Itinerary.ofClass, fresh, found]
          have failed : Resolution.ofStrategy context tree resolver.classes classPath .sourceIndex =
              (.failed (.notIndexed (Itinerary.keyOf classPath)), []) := by
            simp only [Resolution.ofStrategy, Resolution.ofSourceIndex, Resolution.indexKeyOf_eq,
              found]
          rw [nowhere, ask]
          simp only [failed]
          exact ⟨rfl, rfl⟩

/-- A lookup that recalls nothing goes along the itinerary of the class. -/
theorem resolve_follows (retention : Retention) (classes : CompiledSet) (context : BuildContext)
    (tree : FileTree) (cache : ClassCache) (classPath : String)
    (missed : retention.recalled? cache classPath = none) :
    ((retaining retention classes).resolve context tree cache classPath).Follows context tree
      (Itinerary.keyOf classPath) (.ofClass context classes classPath) := by
  rw [resolve_of_missed missed]
  exact ask_follows _ context tree cache.asked classPath

/-! ## A nested class among test classes -/

/-- A module with test classes only. -/
def tester : ProjectModule := ⟨"app", none, some ⟨"t"⟩, [⟨"s"⟩]⟩

/-- A build whose tests declare `a.A`. -/
def testContext : BuildContext where
  project := ⟨"tests", ⟨"/"⟩, [tester], ⟨[⟨"a.A", ⟨"s/A.java"⟩, .source⟩], []⟩⟩
  layer := FileLayer.plain

/-- The compiled class nested in `a.A`. -/
def testTree : FileTree :=
  (((FileTree.empty []).put ["t"] .directory).put ["t", "a"] .directory).put
    ["t", "a", "A$B.class"] (.file [7])

/-- The nested class is found in the test output, after a warning about the main output. -/
theorem resolve_follows_nested :
    let lookup := (retaining (.newest 1) .empty).resolve testContext testTree .empty "a/A$B"
    lookup.result = some [7] ∧ lookup.warnings = [Itinerary.missing tester "main"] := by
  have follows := resolve_follows (.newest 1) .empty testContext testTree .empty "a/A$B" rfl
  exact ⟨follows.result.trans (by decide), follows.warnings.trans (by decide)⟩

end Resolver
end ClassEnhancement
