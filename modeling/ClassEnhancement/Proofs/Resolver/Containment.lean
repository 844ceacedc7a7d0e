import ClassEnhancement.Proofs.FileTree.Bearing
import ClassEnhancement.Proofs.Resolver.Itinerary
import ClassEnhancement.Proofs.Source.Spelling

/-!
# Files outside of the output directories

The index strategy asks the file layer for the file that declares a class and for its class files
below the output directories of the owning module.  A class path that is no class name becomes a
path as it is, and with `..` or a separator in front this path may leave the output directory.
-/

namespace ClassEnhancement

/-- The access that finds some contents in one file, and reads all others as before. -/
def FileAccess.holding (access : FileAccess) (file : FilePath) (bytes : Bytes) : FileAccess :=
  { access with
    read := fun tree other => if other = file then .content bytes else access.read tree other }

namespace Itinerary

variable {context : BuildContext} {tree : FileTree} {itinerary : Itinerary} {access : FileAccess}

/-! ## What is asked for -/

/-- The same stops are visited where the same is read at each of them. -/
theorem visited_congr
    (same : ∀ stop ∈ itinerary.visited context tree,
      access.read tree stop.file = context.layer.read tree stop.file) :
    itinerary.visited { context with layer := access } tree = itinerary.visited context tree := by
  induction itinerary with
  | nil => rfl
  | cons stop rest induction =>
      by_cases absent : context.layer.read tree stop.file = .absent
      · rw [visited_of_absent absent] at same ⊢
        obtain ⟨here, later⟩ := List.forall_mem_cons.mp same
        rw [visited_of_absent (here.trans absent), induction later]
      · rw [visited_of_ne_absent absent] at same ⊢
        have here := same stop (List.mem_singleton_self stop)
        exact visited_of_ne_absent (here ▸ absent)

/-- Where a visited file is found to be there, it is the last one that is visited. -/
theorem getLast?_visited_of_present {stop : Stop}
    (visits : stop ∈ itinerary.visited context tree)
    (same : ∀ other, other ≠ stop.file → access.read tree other = context.layer.read tree other)
    (present : access.read tree stop.file ≠ .absent) :
    ∃ last, (itinerary.visited { context with layer := access } tree).getLast? = some last ∧
      last.file = stop.file := by
  induction itinerary with
  | nil => cases visits
  | cons first rest induction =>
      by_cases here : first.file = stop.file
      · refine ⟨first, ?_, here⟩
        rw [visited_of_ne_absent (by rw [here]; exact present), List.getLast?_singleton]
      · by_cases absent : context.layer.read tree first.file = .absent
        · rw [visited_of_absent absent] at visits
          rcases List.mem_cons.mp visits with rfl | visits
          · exact absurd rfl here
          · obtain ⟨last, found, file_eq⟩ := induction visits
            refine ⟨last, ?_, file_eq⟩
            rw [visited_of_absent ((same _ here).trans absent), List.getLast?_cons, found]
            rfl
        · rw [visited_of_ne_absent absent] at visits
          obtain rfl := List.mem_singleton.mp visits
          exact absurd rfl here

/-- A stop on the way through places is the declaring file, or a class file in one of them. -/
theorem file_of_mem_through {owner : ProjectModule} {classPath : String} {declaring : FilePath}
    {places : List Resolution.Place} {due : List Message} {stop : Stop}
    (listed : stop ∈ through owner classPath declaring due places) :
    stop.file = declaring ∨ ∃ place ∈ places, ∃ directory, place.directory = some directory ∧
      stop.file = directory.join (Resolution.relativeFileOf classPath) := by
  induction places generalizing due with
  | nil =>
      rw [through, List.mem_singleton] at listed
      exact .inl (by rw [listed])
  | cons place rest induction =>
      have later : ∀ {due}, stop ∈ through owner classPath declaring due rest →
          stop.file = declaring ∨ ∃ other ∈ place :: rest, ∃ directory,
            other.directory = some directory ∧
              stop.file = directory.join (Resolution.relativeFileOf classPath) := by
        intro due listed
        rcases induction listed with own | ⟨other, member, found⟩
        · exact .inl own
        · exact .inr ⟨other, List.mem_cons_of_mem _ member, found⟩
      rw [through] at listed
      split at listed
      · exact later listed
      · next directory found =>
          rcases List.mem_cons.mp listed with same | listed
          · exact .inr ⟨place, List.mem_cons_self, directory, found, by rw [same]⟩
          · exact later listed

/-- A stop of an owner is the declaring file, or a class file in one of the output directories. -/
theorem file_of_mem_ofOwner {owner : ProjectModule} {classPath : String} {declaring : FilePath}
    {stop : Stop} (listed : stop ∈ ofOwner owner classPath declaring) :
    stop.file = declaring ∨ ∃ directory,
      (owner.output = some directory ∨ owner.testOutput = some directory) ∧
        stop.file = directory.join (Resolution.relativeFileOf classPath) := by
  rw [← through_placesOf] at listed
  rcases file_of_mem_through listed with own | ⟨place, member, directory, found, joined⟩
  · exact .inl own
  · refine .inr ⟨directory, ?_, joined⟩
    rcases List.mem_cons.mp member with rfl | member
    · exact .inl found
    · obtain rfl := List.mem_singleton.mp member
      exact .inr found

end Itinerary

namespace Resolution

variable {context : BuildContext} {tree : FileTree} {classPath : String} {file : FilePath}

/-- The index strategy asks for a file: what it comes to depends on what is read there. -/
def Asks (context : BuildContext) (tree : FileTree) (classPath : String) (file : FilePath) : Prop :=
  ∃ access : FileAccess,
    (∀ other, other ≠ file → access.read tree other = context.layer.read tree other) ∧
      ofSourceIndex { context with layer := access } tree classPath ≠
        ofSourceIndex context tree classPath

/-- The stops of the index strategy. -/
def stops (context : BuildContext) (tree : FileTree) (classPath : String) : List Stop :=
  (Itinerary.ofClass context .empty classPath).visited context tree

theorem fileOf?_empty (dotted : String) : CompiledSet.fileOf? .empty dotted = none := rfl

/-- Whatever the files are, the strategy goes along the itinerary of a class that is declared. -/
theorem ends_of_declared {declaration : Declaration}
    (found : context.project.index.find? (Itinerary.keyOf classPath) = some declaration)
    (tree : FileTree) (access : FileAccess) :
    ∃ last, (Itinerary.ofClass context .empty classPath).Ends { context with layer := access } tree
      last (ofSourceIndex { context with layer := access } tree classPath) :=
  ends_ofSourceIndex (fileOf?_empty _) found

theorem exists_declared_of_stops {stop : Stop} (visits : stop ∈ stops context tree classPath) :
    ∃ declaration, context.project.index.find? (Itinerary.keyOf classPath) = some declaration := by
  refine Option.ne_none_iff_exists'.mp fun undeclared => ?_
  have nowhere : Itinerary.ofClass context .empty classPath = [] := by
    rw [Itinerary.ofClass, undeclared]
    rfl
  rw [stops, nowhere] at visits
  cases visits

/-- What the strategy comes to does not depend on files that are no stops. -/
theorem ofSourceIndex_congr {access : FileAccess}
    (same : ∀ stop ∈ stops context tree classPath,
      access.read tree stop.file = context.layer.read tree stop.file) :
    ofSourceIndex { context with layer := access } tree classPath =
      ofSourceIndex context tree classPath := by
  have visits := Itinerary.visited_congr same
  cases found : context.project.index.find? (Itinerary.keyOf classPath) with
  | none => simp only [ofSourceIndex, indexKeyOf_eq, found]
  | some declaration =>
      obtain ⟨last, ends⟩ := ends_of_declared found tree context.layer
      obtain ⟨other, other_ends⟩ := ends_of_declared found tree access
      have other_visits := other_ends.visits
      have other_warns := other_ends.warns
      rw [visits] at other_visits other_warns
      obtain rfl := Option.some.inj (ends.visits.symm.trans other_visits)
      refine Prod.ext ?_ (other_warns.trans ends.warns.symm)
      rw [other_ends.comes, ends.comes, ofFile, ofFile, same last (List.mem_of_getLast? ends.visits)]

theorem exists_ne_found (resolution : Resolution) : ∃ bytes, resolution ≠ .found bytes := by
  cases resolution with
  | found bytes =>
      exact ⟨0 :: bytes, fun same => List.cons_ne_self 0 bytes (Resolution.found.inj same).symm⟩
  | notApplicable => exact ⟨[], nofun⟩
  | failed error => exact ⟨[], nofun⟩

/-- The strategy asks for the files of its stops, and for no other file. -/
theorem asks_iff : Asks context tree classPath file ↔
    ∃ stop ∈ stops context tree classPath, stop.file = file := by
  constructor
  · rintro ⟨access, same, different⟩
    by_contra absent
    refine different (ofSourceIndex_congr fun stop visits => same stop.file ?_)
    exact fun here => absent ⟨stop, visits, here⟩
  · rintro ⟨stop, visits, rfl⟩
    -- With other contents in this file, the search ends here and finds these contents.
    obtain ⟨bytes, other_bytes⟩ := exists_ne_found (ofSourceIndex context tree classPath).1
    let access := context.layer.holding stop.file bytes
    have same : ∀ other, other ≠ stop.file →
        access.read tree other = context.layer.read tree other :=
      fun other elsewhere => if_neg elsewhere
    have held : access.read tree stop.file = .content bytes := if_pos rfl
    obtain ⟨last, found, file_eq⟩ :=
      Itinerary.getLast?_visited_of_present visits same (by rw [held]; exact nofun)
    obtain ⟨declaration, declared⟩ := exists_declared_of_stops visits
    obtain ⟨other, ends⟩ := ends_of_declared declared tree access
    obtain rfl := Option.some.inj (found.symm.trans ends.visits)
    have comes : (ofSourceIndex { context with layer := access } tree classPath).1 =
        .found bytes := by
      rw [ends.comes, file_eq, ofFile]
      simp only [held]
    exact ⟨access, same, fun unchanged =>
      other_bytes ((congrArg Prod.fst unchanged).symm.trans comes)⟩

/-! ## Where the files are -/

theorem exists_declaration_of_stops {stop : Stop} (visits : stop ∈ stops context tree classPath) :
    ∃ declaration, context.project.index.find? (indexKeyOf classPath) = some declaration ∧
      (stop.file = declaration.file ∨ ∃ owner directory,
        ownerOf? context.project declaration = some owner ∧
          (owner.output = some directory ∨ owner.testOutput = some directory) ∧
            stop.file = directory.join (relativeFileOf classPath)) := by
  obtain ⟨declaration, found⟩ := exists_declared_of_stops visits
  have listed := Itinerary.visited_subset _ visits
  simp only [Itinerary.ofClass, fileOf?_empty, found] at listed
  refine ⟨declaration, (indexKeyOf_eq classPath).symm ▸ found, ?_⟩
  rw [ownerOf?]
  cases origin : declaration.origin with
  | library =>
      simp only [origin, List.mem_singleton] at listed
      exact .inl (by rw [listed])
  | source =>
      cases owned : context.project.moduleFor? declaration.file with
      | none =>
          simp only [origin, owned, List.mem_singleton] at listed
          exact .inl (by rw [listed])
      | some owner =>
          simp only [origin, owned] at listed
          rcases Itinerary.file_of_mem_ofOwner listed with own | ⟨directory, output, joined⟩
          · exact .inl own
          · exact .inr ⟨owner, directory, rfl, output, joined⟩

/-- The file of a class has a name, whatever the class path is. -/
theorem exists_components_relativeFileOf (classPath : String) :
    ∃ front last, (relativeFileOf classPath).components = front ++ [.name last] := by
  rw [relativeFileOf]
  cases ClassName.ofSlashed classPath with
  | ok name =>
      refine ⟨name.segments.dropLast.map .name, name.simpleName ++ ClassName.classEnding, ?_⟩
      simp only [name.classFile_eq]
      rw [FilePath.components_ofNames name.fileNames_ne_nil name.plain_fileNames,
        ClassName.fileNames, List.map_append, List.map_singleton]
  | error error =>
      obtain ⟨front, last, pieces⟩ :=
        Text.exists_pieces_append classPath (show '/' ∉ ClassName.classEnding.toList by decide)
      have named : FilePath.componentOfPiece? (last ++ ClassName.classEnding) =
          some (.name (last ++ ClassName.classEnding)) := by
        rw [FilePath.componentOfPiece?,
          if_neg (not_or.mpr ⟨ClassName.append_classEnding_ne last (by decide),
            ClassName.append_classEnding_ne last (by decide)⟩),
          if_neg (ClassName.append_classEnding_ne last (by decide))]
      obtain ⟨before, components⟩ :=
        FilePath.exists_components_of_pieces ⟨classPath ++ ClassName.classEnding⟩ pieces named
      exact ⟨before, _, components⟩

/-- A file is the one that declares the class, or it is below an output directory of the module that
the declaring file belongs to. -/
def IsContained (context : BuildContext) (classPath : String) (start : Location)
    (file : FilePath) : Prop :=
  ∃ declaration, context.project.index.find? (indexKeyOf classPath) = some declaration ∧
    (file = declaration.file ∨ ∃ owner directory,
      ownerOf? context.project declaration = some owner ∧
        (owner.output = some directory ∨ owner.testOutput = some directory) ∧
          FilePath.IsBelow start directory file)

theorem isContained_of_asks (asks : Asks context tree classPath file)
    (stays : ∀ location, (relativeFileOf classPath).Stays location) (start : Location) :
    IsContained context classPath start file := by
  obtain ⟨stop, visits, rfl⟩ := asks_iff.mp asks
  obtain ⟨declaration, found, own | ⟨owner, directory, owned, output, joined⟩⟩ :=
    exists_declaration_of_stops visits
  · exact ⟨declaration, found, .inl own⟩
  · refine ⟨declaration, found, .inr ⟨owner, directory, owned, output, ?_⟩⟩
    rw [joined, FilePath.isBelow_join_iff]
    exact stays _

theorem stays_relativeFileOf (free : (relativeFileOf classPath).isAbsolute = false)
    (level : (relativeFileOf classPath).bearing.rise = 0) (location : Location) :
    (relativeFileOf classPath).Stays location := by
  obtain ⟨front, last, ends⟩ := exists_components_relativeFileOf classPath
  exact FilePath.stays_of_rise_eq_zero free level (FilePath.names_bearing_ne_nil ends) location

/-- The class file of a class name stays. -/
theorem stays_of_className (name : ClassName) (location : Location) :
    (relativeFileOf name.slashed).Stays location := by
  have free := FilePath.ofNames_isAbsolute name.fileNames_ne_nil name.plain_fileNames
  have named := FilePath.components_ofNames name.fileNames_ne_nil name.plain_fileNames
  rw [← name.classFile_eq, ← relativeFileOf_slashed] at free named
  refine stays_relativeFileOf free (FilePath.rise_bearing ?_) location
  rw [named]
  simp

/-- The strategy asks for the declaring file and for class files that are joined to the output
directories.  Such a file is below its directory just where its path stays there, as it does if it is
relative and does not go up, and as the path of every class name does. -/
theorem asks_contained (context : BuildContext) (tree : FileTree) (classPath : String) :
    (∀ file, Asks context tree classPath file ↔
      ∃ stop ∈ (Itinerary.ofClass context .empty classPath).visited context tree,
        stop.file = file) ∧
    (∀ file, Asks context tree classPath file →
      ∃ declaration, context.project.index.find? (indexKeyOf classPath) = some declaration ∧
        (file = declaration.file ∨ ∃ owner directory,
          ownerOf? context.project declaration = some owner ∧
            (owner.output = some directory ∨ owner.testOutput = some directory) ∧
            file = directory.join (relativeFileOf classPath) ∧
            ∀ start, FilePath.IsBelow start directory file ↔
              (relativeFileOf classPath).Stays (directory.resolved start))) ∧
    ((relativeFileOf classPath).isAbsolute = false → (relativeFileOf classPath).bearing.rise = 0 →
      ∀ start file, Asks context tree classPath file →
        IsContained context classPath start file) ∧
    ∀ name : ClassName, classPath = name.slashed →
      ∀ start file, Asks context tree classPath file →
        IsContained context classPath start file := by
  refine ⟨fun file => asks_iff, ?placed, ?level, ?named⟩
  case placed =>
    intro file asks
    obtain ⟨stop, visits, rfl⟩ := asks_iff.mp asks
    obtain ⟨declaration, found, own | ⟨owner, directory, owned, output, joined⟩⟩ :=
      exists_declaration_of_stops visits
    · exact ⟨declaration, found, .inl own⟩
    · refine ⟨declaration, found, .inr ⟨owner, directory, owned, output, joined, fun start => ?_⟩⟩
      rw [joined]
      exact FilePath.isBelow_join_iff start directory _
  case level =>
    intro free level start file asks
    exact isContained_of_asks asks (stays_relativeFileOf free level) start
  case named =>
    rintro name rfl start file asks
    exact isContained_of_asks asks (stays_of_className name) start

/-! ## A class path that climbs -/

def shopModule : ProjectModule := ⟨"app", some ⟨"/p/out"⟩, none, [⟨"/p/src"⟩]⟩

def shopDeclaration : Declaration := ⟨"a.A", ⟨"/p/src/A.java"⟩, .source⟩

/-- A build whose only module declares `a.A`. -/
def shopContext : BuildContext where
  project := ⟨"shop", ⟨"/p"⟩, [shopModule], ⟨[shopDeclaration], []⟩⟩
  layer := FileLayer.plain

/-- Files with a class file beside the output directory. -/
def shopTree : FileTree :=
  (((((FileTree.empty []).put ["p"] .directory).put ["p", "out"] .directory).put ["p", "out", "a"]
    .directory).put ["p", "out", "a", "A"] .directory).put ["p", "secret.class"] (.file [7])

theorem ownerOf?_shop : ownerOf? shopContext.project shopDeclaration = some shopModule := by decide

/-- The class file of a class name is asked for in the output directory, and so is that of a class
path that goes up as far only as it has gone down. -/
theorem asks_contained_named :
    Asks shopContext shopTree "a/A" ⟨"/p/out/a/A.class"⟩ ∧
      FilePath.IsBelow [] ⟨"/p/out"⟩ ⟨"/p/out/a/A.class"⟩ ∧
      (∀ start, IsContained shopContext "a/A" start ⟨"/p/out/a/A.class"⟩) ∧
      ∀ start, IsContained shopContext "a/A/../B-C" start ⟨"/p/out/a/A/../B-C.class"⟩ := by
  have asks : Asks shopContext shopTree "a/A" ⟨"/p/out/a/A.class"⟩ :=
    ((asks_contained _ _ _).1 _).mpr ⟨⟨[], ⟨"/p/out/a/A.class"⟩⟩, by decide, rfl⟩
  have back : Asks shopContext shopTree "a/A/../B-C" ⟨"/p/out/a/A/../B-C.class"⟩ :=
    ((asks_contained _ _ _).1 _).mpr ⟨⟨[], ⟨"/p/out/a/A/../B-C.class"⟩⟩, by decide, rfl⟩
  have known : shopContext.project.index.find? (indexKeyOf "a/A") = some shopDeclaration := by decide
  refine ⟨asks, ?below, fun start => ?named, fun start => ?level⟩
  case below =>
    obtain ⟨declaration, found, placed⟩ := (asks_contained _ _ _).2.1 _ asks
    obtain rfl := Option.some.inj (known.symm.trans found)
    rcases placed with own | ⟨owner, directory, owned, output, -, below_iff⟩
    · exact absurd own (by decide)
    · obtain rfl := Option.some.inj (ownerOf?_shop.symm.trans owned)
      rcases output with main | test
      · obtain rfl := Option.some.inj main
        exact (below_iff []).mpr (stays_relativeFileOf (by decide) (by decide) _)
      · cases test
  case named =>
    exact (asks_contained _ _ _).2.2.2 ⟨["a", "A"], by decide, by decide⟩ rfl start _ asks
  case level => exact (asks_contained _ _ _).2.2.1 (by decide) (by decide) start _ back

/-- A class path with `..` makes the strategy ask for a file outside, and find it. -/
theorem asks_outside :
    Asks shopContext shopTree "a/A/../../../secret" ⟨"/p/out/a/A/../../../secret.class"⟩ ∧
      (∀ start, ¬ IsContained shopContext "a/A/../../../secret" start
        ⟨"/p/out/a/A/../../../secret.class"⟩) ∧
      ofSourceIndex shopContext shopTree "a/A/../../../secret" = (.found [7], []) := by
  have known : shopContext.project.index.find? (indexKeyOf "a/A/../../../secret") =
      some shopDeclaration := by decide
  refine ⟨asks_iff.mpr ⟨⟨[], ⟨"/p/out/a/A/../../../secret.class"⟩⟩, by decide, rfl⟩, ?_, by decide⟩
  rintro start ⟨declaration, found, placed⟩
  obtain rfl := Option.some.inj (known.symm.trans found)
  rcases placed with own | ⟨owner, directory, owned, output, names, -, below⟩
  · exact absurd own (by decide)
  · obtain rfl := Option.some.inj (ownerOf?_shop.symm.trans owned)
    rcases output with main | test
    · obtain rfl := Option.some.inj main
      have outside : ["p", "secret.class"] = ["p", "out"] ++ names := below
      simp at outside
    · cases test

end Resolution
end ClassEnhancement
