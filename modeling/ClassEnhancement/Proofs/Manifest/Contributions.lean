import ClassEnhancement.Manifest.Discovery
import ClassEnhancement.Proofs.Manifest.WireForm

/-!
# Contributions of manifests

Discovery comes to the packages that manifests list, each manifest on its own: the text below the
output directory of a module when it is well formed, and every file with the name of manifests.  So
neither order nor repetition counts, and a manifest that is lost takes its own packages with it and
no others.  Every manifest that is there and cannot be used has its warning.
-/

namespace ClassEnhancement

/-- Values that a partial function has match the members of a list for which it has one. -/
theorem forall₂_filter_filterMap {α β : Type} {relation : α → β → Prop} {value? : α → Option β}
    {test : α → Bool} (tested : ∀ a, test a = (value? a).isSome)
    (related : ∀ a b, value? a = some b → relation a b) (list : List α) :
    List.Forall₂ relation (list.filter test) (list.filterMap value?) := by
  induction list with
  | nil => exact .nil
  | cons a rest induction =>
      have here := tested a
      cases value : value? a with
      | none =>
          rw [value, Option.isSome_none] at here
          rw [List.filter_cons_of_neg (by simp [here]), List.filterMap_cons_none value]
          exact induction
      | some b =>
          rw [value, Option.isSome_some] at here
          rw [List.filter_cons_of_pos here, List.filterMap_cons_some value]
          exact .cons (related a b value) induction

theorem PackageSet.mem_ofRaw {raw package : String} :
    package ∈ (ofRaw raw).packages ↔
      ∃ entry ∈ rawEntries raw, packageOfEntry? entry = some package := by
  rw [ofRaw, addRaw, mem_insertAll]
  simp [empty]

/-- Reading a file comes to nothing that an output manifest could list. -/
inductive ReadOutcome.Spoiled : ReadOutcome → Prop
  | absent : Spoiled .absent
  | unreadable (cause : FileError) : Spoiled (.unreadable cause)
  | malformed {bytes : Bytes} {error : ManifestError}
      (parsed : ManifestAttributes.parse (Utf8.decodeLenient bytes) = .error error) :
      Spoiled (.content bytes)

/-- Whether the file is there and cannot be read. -/
def ReadOutcome.isUnreadable : ReadOutcome → Bool
  | .unreadable _ => true
  | _ => false

namespace Discovery

/-- A manifest that contributes a raw list. -/
inductive Lists (context : BuildContext) (tree : FileTree) (modules : List ProjectModule)
    (location : ManifestLocation) : FilePath → String → Prop
  /-- The manifest of a module, by its attribute. -/
  | output {owner : ProjectModule} {directory : FilePath} {bytes : Bytes}
      {attributes : ManifestAttributes} {raw : String} (member : owner ∈ modules)
      (output : owner.output = some directory)
      (read : context.layer.read tree (directory.join location.relative) = .content bytes)
      (parsed : ManifestAttributes.parse (Utf8.decodeLenient bytes) = .ok attributes)
      (listed : attributes.packages? = some raw) :
      Lists context tree modules location (directory.join location.relative) raw
  /-- A registered file, by its whole text. -/
  | indexed {path : FilePath} {bytes : Bytes}
      (registered : path ∈ context.project.index.filesNamed location.fileName)
      (read : context.layer.read tree path = .content bytes) :
      Lists context tree modules location path (Utf8.decodeLenient bytes)

/-- The warning about the output manifest of a module. -/
inductive WarnsOfOutput (context : BuildContext) (tree : FileTree) (location : ManifestLocation)
    (owner : ProjectModule) : Message → Prop
  | unreadable {directory : FilePath} {cause : FileError} (output : owner.output = some directory)
      (read : context.layer.read tree (directory.join location.relative) = .unreadable cause) :
      WarnsOfOutput context tree location owner (.warning
        s!"Error reading {location.relative.text} from {directory.text} error:{cause.message}")
  | malformed {directory : FilePath} {bytes : Bytes} {error : ManifestError}
      (output : owner.output = some directory)
      (read : context.layer.read tree (directory.join location.relative) = .content bytes)
      (parsed : ManifestAttributes.parse (Utf8.decodeLenient bytes) = .error error) :
      WarnsOfOutput context tree location owner (.warning
        s!"Error reading {location.relative.text} from {directory.text} error:{error.message}")

variable {context : BuildContext} {tree : FileTree} {modules : List ProjectModule}
  {location : ManifestLocation}

/-! ## One manifest -/

theorem raw_ofModule {owner : ProjectModule} {raw : String} :
    (Contribution.ofModule context.layer tree location owner).raw = some raw ↔
      ∃ directory bytes attributes, owner.output = some directory ∧
        context.layer.read tree (directory.join location.relative) = .content bytes ∧
        ManifestAttributes.parse (Utf8.decodeLenient bytes) = .ok attributes ∧
        attributes.packages? = some raw := by
  unfold Contribution.ofModule
  cases output : owner.output with
  | none => simp [Contribution.nothing]
  | some directory =>
      simp only [Option.some.injEq, exists_and_left, exists_eq_left']
      cases context.layer.read tree (directory.join location.relative) with
      | absent => simp [Contribution.ofOutput, Contribution.nothing]
      | unreadable cause => simp [Contribution.ofOutput, Contribution.unusable]
      | content bytes =>
          cases parsed : ManifestAttributes.parse (Utf8.decodeLenient bytes) with
          | error error => simp [Contribution.ofOutput, Contribution.unusable, parsed]
          | ok attributes =>
              cases listed : attributes.packages? with
              | none =>
                  simp [Contribution.ofOutput, Contribution.nothing, parsed, listed]
              | some text => simp [Contribution.ofOutput, Contribution.list, parsed, listed]

theorem raw_ofFile {path : FilePath} {raw : String} :
    (Contribution.ofFile context.layer tree path).raw = some raw ↔
      ∃ bytes, context.layer.read tree path = .content bytes ∧
        Utf8.decodeLenient bytes = raw := by
  unfold Contribution.ofFile
  cases context.layer.read tree path with
  | absent => simp [Contribution.ofIndexed, Contribution.nothing]
  | unreadable cause => simp [Contribution.ofIndexed, Contribution.unusable]
  | content bytes => simp [Contribution.ofIndexed, Contribution.list]

theorem warning_ofModule {owner : ProjectModule} {message : Message} :
    (Contribution.ofModule context.layer tree location owner).warning = some message ↔
      WarnsOfOutput context tree location owner message := by
  constructor
  · intro warned
    unfold Contribution.ofModule at warned
    cases output : owner.output with
    | none => simp [output, Contribution.nothing] at warned
    | some directory =>
        simp only [output] at warned
        cases read : context.layer.read tree (directory.join location.relative) with
        | absent => simp [read, Contribution.ofOutput, Contribution.nothing] at warned
        | unreadable cause =>
            simp only [read, Contribution.ofOutput, Contribution.unusable,
              Option.some.injEq] at warned
            exact warned ▸ .unreadable output read
        | content bytes =>
            cases parsed : ManifestAttributes.parse (Utf8.decodeLenient bytes) with
            | error error =>
                simp only [read, Contribution.ofOutput, parsed, Contribution.unusable,
                  Option.some.injEq] at warned
                exact warned ▸ .malformed output read parsed
            | ok attributes =>
                cases listed : attributes.packages? with
                | none =>
                    simp [read, Contribution.ofOutput, parsed, listed,
                      Contribution.nothing] at warned
                | some raw =>
                    simp [read, Contribution.ofOutput, parsed, listed,
                      Contribution.list] at warned
  · intro warned
    cases warned with
    | unreadable output read =>
        simp [Contribution.ofModule, output, read, Contribution.ofOutput, Contribution.unusable]
    | malformed output read parsed =>
        simp [Contribution.ofModule, output, read, Contribution.ofOutput, parsed,
          Contribution.unusable]

theorem warning_ofFile {path : FilePath} {message : Message} :
    (Contribution.ofFile context.layer tree path).warning = some message ↔
      ∃ cause, context.layer.read tree path = .unreadable cause ∧
        message = .warning s!"Error reading {path.text} error:{cause.message}" := by
  unfold Contribution.ofFile
  cases context.layer.read tree path with
  | absent => simp [Contribution.ofIndexed, Contribution.nothing]
  | unreadable cause => simp [Contribution.ofIndexed, Contribution.unusable, eq_comm]
  | content bytes => simp [Contribution.ofIndexed, Contribution.list]

instance (context : BuildContext) (tree : FileTree) (location : ManifestLocation)
    (owner : ProjectModule) :
    Decidable (∃ message, WarnsOfOutput context tree location owner message) :=
  decidable_of_iff ((Contribution.ofModule context.layer tree location owner).warning.isSome) <| by
    simp only [Option.isSome_iff_exists, warning_ofModule]

/-! ## All manifests -/

/-- A raw list is found exactly when a manifest contributes it. -/
theorem mem_raws {raw : String} :
    raw ∈ (modules.map (Contribution.ofModule context.layer tree location) ++
        (context.project.index.filesNamed location.fileName).map
          (Contribution.ofFile context.layer tree)).filterMap Contribution.raw ↔
      ∃ path, Lists context tree modules location path raw := by
  rw [List.filterMap_append, List.mem_append, List.filterMap_map, List.filterMap_map,
    List.mem_filterMap, List.mem_filterMap]
  constructor
  · rintro (⟨owner, member, found⟩ | ⟨path, registered, found⟩)
    · obtain ⟨directory, bytes, attributes, output, read, parsed, listed⟩ := raw_ofModule.mp found
      exact ⟨_, .output member output read parsed listed⟩
    · obtain ⟨bytes, read, rfl⟩ := raw_ofFile.mp found
      exact ⟨path, .indexed registered read⟩
  · rintro ⟨path, lists⟩
    cases lists with
    | output member output read parsed listed =>
        exact .inl ⟨_, member, raw_ofModule.mpr ⟨_, _, _, output, read, parsed, listed⟩⟩
    | indexed registered read =>
        exact .inr ⟨path, registered, raw_ofFile.mpr ⟨_, read, rfl⟩⟩

/-- A package is found exactly when some manifest lists it. -/
theorem mem_packages {package : String} :
    package ∈ (find context tree modules location).packages.packages ↔
      ∃ path raw, Lists context tree modules location path raw ∧
        package ∈ (PackageSet.ofRaw raw).packages := by
  change package ∈ (PackageSet.ofRaws _).packages ↔ _
  rw [PackageSet.mem_ofRaws]
  constructor
  · rintro ⟨raw, found, entry⟩
    obtain ⟨path, lists⟩ := mem_raws.mp found
    exact ⟨path, raw, lists, PackageSet.mem_ofRaw.mpr entry⟩
  · rintro ⟨path, raw, lists, named⟩
    exact ⟨raw, mem_raws.mpr ⟨path, lists⟩, PackageSet.mem_ofRaw.mp named⟩

/-- The same manifests, read alike, contribute the same. -/
theorem Lists.mono {context' : BuildContext} {tree' : FileTree} {modules' : List ProjectModule}
    {path : FilePath} {raw : String} (lists : Lists context tree modules location path raw)
    (members : ∀ owner ∈ modules, owner ∈ modules')
    (registered : ∀ file ∈ context.project.index.filesNamed location.fileName,
      file ∈ context'.project.index.filesNamed location.fileName)
    (same : context'.layer.read tree' path = context.layer.read tree path) :
    Lists context' tree' modules' location path raw := by
  cases lists with
  | output member output read parsed listed =>
      exact .output (members _ member) output (same.trans read) parsed listed
  | indexed known read => exact .indexed (registered _ known) (same.trans read)

/-- Of a spoiled manifest nothing counts but the text of a registered file. -/
theorem Lists.of_spoiled {path : FilePath} {raw : String}
    (lists : Lists context tree modules location path raw)
    (spoiled : (context.layer.read tree path).Spoiled) :
    ∃ bytes, path ∈ context.project.index.filesNamed location.fileName ∧
      context.layer.read tree path = .content bytes ∧ Utf8.decodeLenient bytes = raw := by
  cases lists with
  | output member output read parsed listed =>
      rw [read] at spoiled
      cases spoiled with
      | malformed refused => simp [parsed] at refused
  | indexed registered read => exact ⟨_, registered, read, rfl⟩

/-! ## The union -/

/-- Warnings of discovery stand for the manifests that are there and cannot be used, first those of
modules and then the registered files. -/
theorem warnings_eq (context : BuildContext) (tree : FileTree) (modules : List ProjectModule)
    (location : ManifestLocation) :
    (find context tree modules location).warnings =
      modules.filterMap (fun owner =>
          (Contribution.ofModule context.layer tree location owner).warning) ++
        (context.project.index.filesNamed location.fileName).filterMap fun path =>
          (Contribution.ofFile context.layer tree path).warning := by
  change List.filterMap Contribution.warning (_ ++ _) = _
  rw [List.filterMap_append, List.filterMap_map, List.filterMap_map]
  rfl

/-- Discovery finds the packages that manifests list and no others, whatever the order of the
modules and of the registered files and however often they occur.  When the manifests at some paths
are spoiled, the packages that the other ones list are left; a registered file still counts as the
text that it holds.  There is one warning for each module whose manifest cannot be read or is
malformed, and one for each registered file that cannot be read. -/
theorem find_union (context : BuildContext) (tree : FileTree) (modules : List ProjectModule)
    (location : ManifestLocation) :
    let files := context.project.index.filesNamed location.fileName
    let found := find context tree modules location
    (∀ package, package ∈ found.packages.packages ↔
      ∃ path raw, Lists context tree modules location path raw ∧
        package ∈ (PackageSet.ofRaw raw).packages) ∧
    (∀ (project : Project) (modules' : List ProjectModule),
      (∀ owner, owner ∈ modules' ↔ owner ∈ modules) →
      (∀ path, path ∈ project.index.filesNamed location.fileName ↔ path ∈ files) →
      (find ⟨project, context.layer⟩ tree modules' location).packages = found.packages) ∧
    (∀ (layer : FileAccess) (after : FileTree) (spoiled : FilePath → Prop),
      (∀ path, ¬ spoiled path → layer.read after path = context.layer.read tree path) →
      (∀ path, spoiled path → (layer.read after path).Spoiled) →
      ∀ package,
        package ∈ (find ⟨context.project, layer⟩ after modules location).packages.packages ↔
          (∃ path raw, ¬ spoiled path ∧ Lists context tree modules location path raw ∧
            package ∈ (PackageSet.ofRaw raw).packages) ∨
          ∃ path bytes, spoiled path ∧ path ∈ files ∧ layer.read after path = .content bytes ∧
            package ∈ (PackageSet.ofRaw (Utf8.decodeLenient bytes)).packages) ∧
    ∃ ofModules ofFiles, found.warnings = ofModules ++ ofFiles ∧
      List.Forall₂ (WarnsOfOutput context tree location)
        (modules.filter fun owner => ∃ message, WarnsOfOutput context tree location owner message)
        ofModules ∧
      List.Forall₂ (fun path message => ∃ cause, context.layer.read tree path = .unreadable cause ∧
          message = .warning s!"Error reading {path.text} error:{cause.message}")
        (files.filter fun path => (context.layer.read tree path).isUnreadable) ofFiles := by
  refine ⟨fun package => mem_packages, fun project modules' members registered => ?_,
    fun layer after spoiled kept lost package => ?_, _, _, warnings_eq .., ?_, ?_⟩
  · refine PackageSet.eq_of_mem_iff fun package => ?_
    rw [mem_packages, mem_packages]
    constructor
    · rintro ⟨path, raw, lists, named⟩
      exact ⟨path, raw, lists.mono (fun owner => (members owner).mp)
        (fun file => (registered file).mp) rfl, named⟩
    · rintro ⟨path, raw, lists, named⟩
      exact ⟨path, raw, lists.mono (fun owner => (members owner).mpr)
        (fun file => (registered file).mpr) rfl, named⟩
  · rw [mem_packages]
    constructor
    · rintro ⟨path, raw, lists, named⟩
      by_cases here : spoiled path
      · obtain ⟨bytes, registered, read, rfl⟩ := lists.of_spoiled (lost path here)
        exact .inr ⟨path, bytes, here, registered, read, named⟩
      · exact .inl ⟨path, raw, here, lists.mono (fun _ member => member)
          (fun _ member => member) (kept path here).symm, named⟩
    · rintro (⟨path, raw, elsewhere, lists, named⟩ | ⟨path, bytes, -, registered, read, named⟩)
      · exact ⟨path, raw, lists.mono (fun _ member => member) (fun _ member => member)
          (kept path elsewhere), named⟩
      · exact ⟨path, _, .indexed registered read, named⟩
  · refine forall₂_filter_filterMap (fun owner => ?_) (fun owner message => ?_) modules
    · rw [Bool.eq_iff_iff, decide_eq_true_iff, Option.isSome_iff_exists]
      simp only [warning_ofModule]
    · exact warning_ofModule.mp
  · refine forall₂_filter_filterMap (fun path => ?_) (fun path message => warning_ofFile.mp) _
    unfold Contribution.ofFile ReadOutcome.isUnreadable
    cases context.layer.read tree path <;> rfl

/-- A project of two modules with output directories. -/
def twoOutputs : Project :=
  ⟨"outputs", ⟨"/"⟩, [⟨"first", some ⟨"a"⟩, none, []⟩, ⟨"second", some ⟨"b"⟩, none, []⟩],
    .empty⟩

/-- The files of the project, with a manifest below each output directory. -/
def twoOutputsTree : FileTree :=
  ((((((FileTree.empty []).put ["a"] .directory).put ["a", "META-INF"] .directory).put
    ["a", "META-INF", "ebean-typequery.mf"] (.file (Utf8.encode "packages: p"))).put
    ["b"] .directory).put ["b", "META-INF"] .directory).put
    ["b", "META-INF", "ebean-typequery.mf"] (.file (Utf8.encode "packages: q"))

/-- The manifest below the second output directory. -/
def secondManifest : FilePath := ⟨"b/META-INF/ebean-typequery.mf"⟩

/-- When the second manifest cannot be read, its package is gone with a warning, and what the other
manifests list is left. -/
theorem find_union_two_outputs :
    (ofProject ⟨twoOutputs, .plain⟩ twoOutputsTree .standard).packages.packages = ["p", "q"] ∧
      (ofProject ⟨twoOutputs, FileLayer.access ⟨[], [secondManifest], []⟩⟩ twoOutputsTree
        .standard).warnings = [.warning
          "Error reading META-INF/ebean-typequery.mf from b error:access denied"] ∧
      ∀ package, package ∈ (ofProject ⟨twoOutputs, FileLayer.access ⟨[], [secondManifest], []⟩⟩
          twoOutputsTree .standard).packages.packages ↔
        ∃ path raw, ¬ secondManifest.Same path ∧
          Lists ⟨twoOutputs, .plain⟩ twoOutputsTree twoOutputs.modules .standard path raw ∧
          package ∈ (PackageSet.ofRaw raw).packages := by
  obtain ⟨-, -, removes, -⟩ :=
    find_union ⟨twoOutputs, .plain⟩ twoOutputsTree twoOutputs.modules .standard
  have refused : ∀ path, secondManifest.Same path →
      (FileLayer.read ⟨[], [secondManifest], []⟩ twoOutputsTree path).Spoiled := by
    intro path same
    have read : FileLayer.read ⟨[], [secondManifest], []⟩ twoOutputsTree path =
        .unreadable (.reported "access denied") := by
      simp [FileLayer.read, FileLayer.lists, same]
    rw [read]
    exact .unreadable _
  have kept : ∀ path, ¬ secondManifest.Same path →
      FileLayer.read ⟨[], [secondManifest], []⟩ twoOutputsTree path =
        FileLayer.plain.read twoOutputsTree path := by
    intro path elsewhere
    simp [FileLayer.read, FileLayer.lists, FileLayer.plain, elsewhere]
  refine ⟨by decide, by decide, fun package => ?_⟩
  rw [ofProject, removes _ twoOutputsTree secondManifest.Same kept refused]
  constructor
  · rintro (left | ⟨path, bytes, -, registered, -⟩)
    · exact left
    · cases registered
  · exact .inl

end Discovery
end ClassEnhancement
