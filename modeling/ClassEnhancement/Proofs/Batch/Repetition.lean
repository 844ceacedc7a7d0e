import ClassEnhancement.Proofs.Batch.Verdict

/-!
# Running a batch again

A marking transformer declines every class that ends in the mark.  All that a batch writes is marked
classes, so a second run finds every file that the first one wrote marked, also where two classes
share a file, and finds every other file as the first one did.  It changes nothing and ends as the
first run did, provided that no class stands in a manifest that names the packages.
-/

namespace ClassEnhancement

/-! ## Marking transformers -/

namespace Marking

/-- A batch with a marking transformer. -/
def batch (marking : Marking) (project : Project) (layer : FileLayer) (classes : CompiledSet)
    (config : EnhanceConfig) : Batch MarkingRecord where
  context := ⟨project, layer⟩
  classes
  factory := marking.factory
  config

/-- A class is dealt with alike whatever its bytes are, or it is marked unless it is already. -/
theorem answer_cases (marking : Marking) (packages : PackageSet) (name : ClassName) :
    (∃ outcome, (∀ bytes, marking.answer packages name bytes = outcome) ∧
        ∀ new, outcome ≠ .replaced new) ∨
      ∀ bytes, marking.answer packages name bytes =
        if isMarked bytes then .declined else .replaced (addMark bytes) := by
  unfold answer
  by_cases panics : name.dotted ∈ marking.panicking
  · simp [panics]
  by_cases fails : name.dotted ∈ marking.failing
  · simp [panics, fails]
  by_cases covered : packages.covers name = true
  · refine .inr fun bytes => ?_
    cases isMarked bytes <;> simp [panics, fails, covered]
  · simp [panics, fails, covered]

end Marking

/-! ## Files that are marked -/

/-- Some files of classes have come to end in the mark, and nothing else has changed. -/
structure Marks (entries : List (ClassName × FilePath)) (before after : FileTree) : Prop where
  /-- Only contents differ. -/
  shape : FileTree.SameShape before after
  /-- A file that differs belongs to a class and ends in the mark. -/
  contents : ∀ location, after.lookup? location = before.lookup? location ∨
    (∃ entry ∈ entries, before.DenotesFile entry.2 location) ∧
      ∃ bytes, after.lookup? location = some (.file bytes) ∧ Marking.isMarked bytes = true

namespace Marks

variable {entries : List (ClassName × FilePath)} {before middle after : FileTree}

theorem refl (entries : List (ClassName × FilePath)) (tree : FileTree) :
    Marks entries tree tree :=
  ⟨.refl tree, fun _ => .inl rfl⟩

theorem trans (first : Marks entries before middle) (second : Marks entries middle after) :
    Marks entries before after := by
  refine ⟨first.shape.trans second.shape, fun location => ?_⟩
  rcases second.contents location with same | ⟨⟨entry, listed, denotes⟩, marked⟩
  · rw [same]
    exact first.contents location
  · exact .inr ⟨⟨entry, listed, first.shape.symm.denotesFile denotes⟩, marked⟩

theorem overwrite {entry : ClassName × FilePath} (listed : entry ∈ entries) {location : Location}
    (denotes : before.DenotesFile entry.2 location) {bytes : Bytes}
    (marked : Marking.isMarked bytes = true) :
    Marks entries before (before.overwrite entry.2 bytes) := by
  refine ⟨denotes.sameShape_overwrite bytes, fun other => ?_⟩
  by_cases same : other = location
  · subst same
    exact .inr ⟨⟨entry, listed, denotes⟩, bytes, denotes.lookup?_overwrite_self bytes, marked⟩
  · exact .inl (denotes.lookup?_overwrite_of_ne same bytes)

/-- A file keeps its contents or ends in the mark. -/
theorem file_cases (marks : Marks entries before after) {location : Location} {old new : Bytes}
    (found : before.lookup? location = some (.file old))
    (found' : after.lookup? location = some (.file new)) :
    new = old ∨ Marking.isMarked new = true := by
  rcases marks.contents location with same | ⟨-, bytes, there, marked⟩
  · rw [found, found'] at same
    exact .inl (by simpa using same)
  · obtain rfl : bytes = new := by simpa using there.symm.trans found'
    exact .inr marked

/-- A path that no class denotes reads the same. -/
theorem read_eq (marks : Marks entries before after) (layer : FileLayer) {path : FilePath}
    (apart : FileLayer.lists layer.unreadable path = false → ∀ entry ∈ entries, ∀ location,
      before.DenotesFile entry.2 location → before.locate path ≠ .ok location) :
    layer.read after path = layer.read before path := by
  unfold FileLayer.read
  split
  · rfl
  next readable =>
  unfold FileTree.read
  rw [← marks.shape.locate_eq path]
  cases located : before.locate path with
  | error error => rfl
  | ok location =>
      rcases marks.contents location with same | ⟨⟨entry, listed, denotes⟩, -⟩
      · simp only [FileTree.contentAt, same]
      · exact (apart (by simpa using readable) entry listed location denotes located).elim

end Marks

/-! ## One run -/

namespace Standing

variable {marking : Marking} {packages : PackageSet} {layer : FileLayer}
  {all entries : List (ClassName × FilePath)} {standing next : Standing}
  {error : Option EnhanceError} {name : ClassName} {file : FilePath}

/-- Dealing with a class marks its file, or leaves the files alone. -/
theorem settle_marks (listed : (name, file) ∈ all)
    (settled : standing.settle layer name file
      (verdict (marking.answer packages) standing.tree name file) = (next, error)) :
    Marks all standing.tree next.tree := by
  unfold verdict at settled
  cases opened : Workbench.openClass standing.tree name file with
  | error cause =>
      simp only [opened, settle] at settled
      cases settled
      exact .refl all _
  | ok bytes =>
      simp only [opened] at settled
      cases answered : marking.answer packages name bytes with
      | declined | failed | panicked =>
          simp only [answered, settle] at settled
          cases settled
          exact .refl all _
      | replaced new =>
          simp only [answered, settle] at settled
          split at settled
          · next overwritten =>
              cases settled
              obtain ⟨location, denotes⟩ := FileLayer.denotesFile_of_overwrites overwritten
              rcases marking.answer_cases packages name with ⟨outcome, alike, unwritten⟩ | marks
              · exact (unwritten new ((alike bytes).symm.trans answered)).elim
              · rw [marks] at answered
                split at answered
                · cases answered
                · obtain rfl : Marking.addMark bytes = new := Outcome.replaced.inj answered
                  exact .overwrite listed denotes (Marking.isMarked_addMark bytes)
          · cases settled
            exact .refl all _

theorem settleAll_marks (listed : entries ⊆ all)
    (settled : settleAll layer (marking.answer packages) entries standing = (next, error)) :
    Marks all standing.tree next.tree := by
  induction entries generalizing standing with
  | nil =>
      cases settled
      exact .refl all _
  | cons entry later induction =>
      obtain ⟨name, file⟩ := entry
      obtain ⟨here, rest⟩ := List.cons_subset.mp listed
      rw [settleAll] at settled
      split at settled
      · next middle cause first =>
          cases settled
          exact settle_marks here first
      · next middle first =>
          exact (settle_marks here first).trans (induction rest settled)

end Standing

/-! ## Two runs -/

namespace BatchReport

@[simp]
theorem processed_addTransformed (report : BatchReport) (name : ClassName) :
    (report.addTransformed name).processed = report.processed + 1 := by
  simp only [processed, addTransformed, List.length_append, List.length_singleton]
  omega

@[simp]
theorem processed_addUnchanged (report : BatchReport) (name : ClassName) :
    (report.addUnchanged name).processed = report.processed + 1 := by
  simp only [processed, addUnchanged, List.length_append, List.length_singleton]
  omega

@[simp]
theorem processed_addFailed (report : BatchReport) (name : ClassName) :
    (report.addFailed name).processed = report.processed + 1 := by
  simp only [processed, addFailed, List.length_append, List.length_singleton]
  omega

/-- The report of a run that finds the files as an earlier run left them. -/
structure Echoes (second first : BatchReport) : Prop where
  /-- The packages are the same. -/
  packages : second.packages = first.packages
  /-- As many classes are dealt with. -/
  processed : second.processed = first.processed
  /-- No class is rewritten again. -/
  transformed : second.transformed = []
  /-- Every class that was rewritten is declined. -/
  unchanged : first.transformed ⊆ second.unchanged
  /-- The run is ended early by the same error, or not. -/
  fatal : second.fatal = first.fatal
  /-- The run comes to its end when the earlier one did. -/
  completed : second.completed = first.completed

namespace Echoes

variable {second first : BatchReport}

theorem of_eq (untransformed : first.transformed = []) : first.Echoes first :=
  ⟨rfl, rfl, untransformed, by rw [untransformed]; exact List.nil_subset _, rfl, rfl⟩

/-- A class that is declined again. -/
theorem declined (echoes : second.Echoes first) (name : ClassName) :
    (second.addUnchanged name).Echoes (first.addUnchanged name) where
  packages := echoes.packages
  processed := by simp [echoes.processed]
  transformed := echoes.transformed
  unchanged := List.Subset.trans echoes.unchanged (List.subset_append_left _ _)
  fatal := echoes.fatal
  completed := echoes.completed

/-- A class that is declined since it was rewritten. -/
theorem rewritten (echoes : second.Echoes first) (name : ClassName) :
    (second.addUnchanged name).Echoes (first.addTransformed name) where
  packages := echoes.packages
  processed := by simp [echoes.processed]
  transformed := echoes.transformed
  unchanged := List.append_subset.mpr
    ⟨List.Subset.trans echoes.unchanged (List.subset_append_left _ _), List.subset_append_right _ _⟩
  fatal := echoes.fatal
  completed := echoes.completed

/-- A class that could not be written and is declined since its file was marked otherwise. -/
theorem spared (echoes : second.Echoes first) (name : ClassName) :
    (second.addUnchanged name).Echoes (first.addFailed name) where
  packages := echoes.packages
  processed := by simp [echoes.processed]
  transformed := echoes.transformed
  unchanged := List.Subset.trans echoes.unchanged (List.subset_append_left _ _)
  fatal := echoes.fatal
  completed := echoes.completed

/-- A class that cannot be written again. -/
theorem failed (echoes : second.Echoes first) (name : ClassName) :
    (second.addFailed name).Echoes (first.addFailed name) where
  packages := echoes.packages
  processed := by simp [echoes.processed]
  transformed := echoes.transformed
  unchanged := echoes.unchanged
  fatal := echoes.fatal
  completed := echoes.completed

theorem conclude (echoes : second.Echoes first) (error : Option EnhanceError) :
    (second.conclude error).Echoes (first.conclude error) := by
  obtain ⟨packages, processed, transformed, unchanged, fatal, completed⟩ := echoes
  cases error with
  | none => exact ⟨packages, processed, transformed, unchanged, fatal, rfl⟩
  | some error => exact ⟨packages, processed, transformed, unchanged, rfl, completed⟩

end Echoes
end BatchReport

namespace Standing

variable {marking : Marking} {packages : PackageSet} {layer : FileLayer}
  {all entries : List (ClassName × FilePath)} {standing next : Standing}
  {error : Option EnhanceError} {name : ClassName} {file : FilePath} {final : FileTree}
  {report : BatchReport}

/-- A class that is marked unless it is already stays as the first run left it. -/
theorem settle_mark_again {location : Location} {bytes bytes' : Bytes}
    (denotes : standing.tree.DenotesFile file location)
    (found : standing.tree.lookup? location = some (.file bytes))
    (found' : final.lookup? location = some (.file bytes'))
    (settled : standing.settle layer name file
      (if Marking.isMarked bytes then .declined else .replaced (Marking.addMark bytes)) =
        (next, error))
    (marks : Marks all standing.tree final) (later : Marks all next.tree final)
    (echoes : report.Echoes standing.report) :
    ∃ again : BatchReport, again.Echoes next.report ∧
      (⟨final, report⟩ : Standing).settle layer name file
        (if Marking.isMarked bytes' then .declined else .replaced (Marking.addMark bytes')) =
          (⟨final, again⟩, error) := by
  by_cases marked : Marking.isMarked bytes = true
  · have marked' : Marking.isMarked bytes' = true := by
      rcases marks.file_cases found found' with rfl | marked'
      · exact marked
      · exact marked'
    simp only [marked, marked', if_true, settle] at settled ⊢
    cases settled
    exact ⟨_, echoes.declined name, rfl⟩
  simp only [marked, settle] at settled
  by_cases overwritten : layer.overwrites standing.tree file = true
  · simp only [overwritten, if_true] at settled
    cases settled
    -- The file was marked here, and whatever was written to it afterwards is marked.
    have marked' : Marking.isMarked bytes' = true := by
      rcases later.file_cases (denotes.lookup?_overwrite_self _) found' with rfl | marked'
      · exact Marking.isMarked_addMark bytes
      · exact marked'
    simp only [marked', if_true, settle]
    exact ⟨_, echoes.rewritten name, rfl⟩
  · simp only [overwritten] at settled
    cases settled
    -- The file may be marked all the same, when another class shares it.
    by_cases marked' : Marking.isMarked bytes' = true
    · simp only [marked', if_true, settle]
      exact ⟨_, echoes.spared name, rfl⟩
    · rw [layer.overwrites_eq marks.shape] at overwritten
      simp only [marked', overwritten, settle]
      exact ⟨_, echoes.failed name, rfl⟩

/-- Dealing with a class again leaves the files of the first run alone. -/
theorem settle_again (listed : (name, file) ∈ all)
    (settled : standing.settle layer name file
      (verdict (marking.answer packages) standing.tree name file) = (next, error))
    (later : Marks all next.tree final) (echoes : report.Echoes standing.report) :
    ∃ again : BatchReport, again.Echoes next.report ∧
      (⟨final, report⟩ : Standing).settle layer name file
        (verdict (marking.answer packages) final name file) = (⟨final, again⟩, error) := by
  have marks := (settle_marks listed settled).trans later
  unfold verdict at settled ⊢
  rcases Workbench.openClass_cases marks.shape name file with
    ⟨cause, opened, opened'⟩ | ⟨location, bytes, bytes', located, found, found', opened, opened'⟩
  · simp only [opened, opened', settle] at settled ⊢
    cases settled
    exact ⟨report, echoes, rfl⟩
  simp only [opened, opened'] at settled ⊢
  rcases marking.answer_cases packages name with ⟨outcome, alike, unwritten⟩ | answer_eq
  · rw [alike] at settled ⊢
    cases outcome with
    | replaced new => exact (unwritten new rfl).elim
    | declined =>
        cases settled
        exact ⟨_, echoes.declined name, rfl⟩
    | failed | panicked =>
        cases settled
        exact ⟨report, echoes, rfl⟩
  · rw [answer_eq] at settled ⊢
    exact settle_mark_again ⟨located, bytes, found⟩ found found' settled marks later echoes

theorem settleAll_again (listed : entries ⊆ all)
    (settled : settleAll layer (marking.answer packages) entries standing = (⟨final, report⟩, error))
    {second : BatchReport} (echoes : second.Echoes standing.report) :
    ∃ again : BatchReport, again.Echoes report ∧
      settleAll layer (marking.answer packages) entries ⟨final, second⟩ =
        (⟨final, again⟩, error) := by
  induction entries generalizing standing second with
  | nil =>
      cases settled
      exact ⟨second, echoes, rfl⟩
  | cons entry later induction =>
      obtain ⟨name, file⟩ := entry
      obtain ⟨here, rest⟩ := List.cons_subset.mp listed
      rw [settleAll] at settled ⊢
      split at settled
      · next middle cause first =>
          cases settled
          obtain ⟨again, echoed, repeated⟩ := settle_again here first (.refl all _) echoes
          exact ⟨again, echoed, by simp only [repeated]⟩
      · next middle first =>
          obtain ⟨again, echoed, repeated⟩ :=
            settle_again here first (settleAll_marks rest settled) echoes
          simp only [repeated]
          exact induction rest settled echoed

end Standing

/-! ## Two whole runs -/

namespace Batch

variable {σ : Type} {batch : Batch σ} {retention : Retention} {build : BuildState} {agent : σ}

/-- A batch that has its transformer and is ended early stops at the class after those that its
report deals with. -/
theorem stopsAt_of_fatal {ready : σ} {transformer : Transformer σ} {text : String}
    (created : batch.create build agent = (ready, .ready transformer))
    (fatal : (batch.runRetaining retention build agent).report.fatal = some text) :
    batch.StopsAt retention build agent
      (batch.runRetaining retention build agent).report.processed text := by
  obtain ⟨left, run, error, passes, result⟩ := passes_end retention created
  rw [result] at fatal ⊢
  cases error with
  | none =>
      obtain ⟨dealt, -, covers⟩ := covered_of_passes passes
      cases covers.fatal.symm.trans fatal
  | some error =>
      obtain rfl : error.report = text := Option.some.inj fatal
      exact stopsAt_of_passes_end passes

end Batch

namespace Marking

/-- No class stands in a manifest that discovery reads. -/
def SparesManifests (project : Project) (layer : FileLayer) (classes : CompiledSet)
    (config : EnhanceConfig) (tree : FileTree) : Prop :=
  ∀ manifest ∈ project.manifests config.manifest,
    FileLayer.lists layer.unreadable manifest = false → ∀ entry ∈ classes.entries, ∀ location,
      tree.DenotesFile entry.2 location → tree.locate manifest ≠ .ok location

variable (marking : Marking) (project : Project) (layer : FileLayer) (classes : CompiledSet)
  (config : EnhanceConfig)

theorem factory_create_of_ready {marking : Marking} (ready : marking.refusesSetup = false)
    (record : MarkingRecord) (options : AgentOptions) (packages : PackageSet) :
    marking.factory.create record options packages =
      (record.addCreation options packages,
        .ready ⟨fun record name bytes => marking.transform packages record name bytes⟩) := by
  simp [factory, ready]

/-- A second run over the files that a first run left. -/
structure RunsAgain (first second : BatchResult MarkingRecord) : Prop where
  /-- No file changes. -/
  tree : second.build.tree = first.build.tree
  /-- The second report echoes the first one. -/
  report : second.report.Echoes first.report

section Runs

variable (marking : Marking) (project : Project) (layer : FileLayer) (classes : CompiledSet)
  (config : EnhanceConfig) (retention retention' : Retention) (build later : BuildState)
  (record record' : MarkingRecord)

theorem run_again_of_refused (refused : marking.refusesSetup = true) :
    let batch := marking.batch project layer classes config
    let first := batch.runRetaining retention build record
    RunsAgain first
      (batch.runRetaining retention' (later.withTree first.build.tree) record') := by
  have created : ∀ build record, (marking.batch project layer classes config).create build record =
      (record, .refused (.setup "agent jar missing")) := by
    intro build record
    simp [Batch.create, batch, factory, refused]
  simp only [Batch.runRetaining, created]
  exact ⟨rfl, .of_eq rfl⟩

theorem run_again_of_ready (ready : marking.refusesSetup = false)
    (spares : SparesManifests project layer classes config build.tree) :
    let batch := marking.batch project layer classes config
    let first := batch.runRetaining retention build record
    RunsAgain first
      (batch.runRetaining retention' (later.withTree first.build.tree) record') := by
  intro batch first
  have created : ∀ build record, batch.create build record = _ := fun build record =>
    factory_create_of_ready ready record config.agent (batch.discovery build).packages
  have answers : ∀ build record, _ := fun build record =>
    marking.factory_answersBy record config.agent (batch.discovery build).packages _ _
      (created build record)
  -- The first run marks files.
  cases settled : Standing.settleAll layer (marking.answer (batch.discovery build).packages)
    batch.classes.entries
    ⟨build.tree, { BatchReport.blank with packages := (batch.discovery build).packages }⟩ with
  | mk last error =>
  have first_eq : first.standing = ⟨last.tree, last.report.conclude error⟩ :=
    Batch.run_settles retention rfl (created build record) (answers build record) settled
  have tree_eq : first.build.tree = last.tree := congrArg Standing.tree first_eq
  have marks : Marks classes.entries build.tree last.tree :=
    Standing.settleAll_marks (List.Subset.refl _) settled
  -- The second run finds the same packages, so it makes the same of a class.
  have discovered : batch.discovery (later.withTree last.tree) = batch.discovery build :=
    Discovery.ofProject_congr project config.manifest fun manifest listed =>
      marks.read_eq layer fun readable => spares manifest listed readable
  obtain ⟨again, echoes, settled'⟩ :=
    Standing.settleAll_again (List.Subset.refl _) settled (.of_eq rfl)
  rw [← discovered] at settled'
  have second_eq := Batch.run_settles retention' rfl
    (created (later.withTree last.tree) record') (answers (later.withTree last.tree) record')
    settled'
  have report_eq : first.report = last.report.conclude error :=
    congrArg Standing.report first_eq
  have again_eq : (batch.runRetaining retention' (later.withTree last.tree) record').report =
      again.conclude error := congrArg Standing.report second_eq
  rw [tree_eq]
  refine ⟨(congrArg Standing.tree second_eq).trans tree_eq.symm, ?_⟩
  rw [again_eq, report_eq]
  exact echoes.conclude error

/-- When no class stands in a manifest that discovery reads, a second run of a batch over the files
that the first one left changes no file and rewrites no class, declines every class that the first
one rewrote, and ends as the first one did: it deals with as many classes, and if the first one was
ended by a class, the same class ends it with the same text. -/
theorem run_again (spares : SparesManifests project layer classes config build.tree) :
    let batch := marking.batch project layer classes config
    let first := batch.runRetaining retention build record
    let marked := later.withTree first.build.tree
    let second := batch.runRetaining retention' marked record'
    RunsAgain first second ∧
      ∀ ready transformer text, batch.create build record = (ready, .ready transformer) →
        first.report.fatal = some text →
        batch.StopsAt retention build record first.report.processed text ∧
          batch.StopsAt retention' marked record' first.report.processed text := by
  intro batch first marked second
  cases setup : marking.refusesSetup with
  | true =>
      refine ⟨run_again_of_refused marking project layer classes config retention retention' build
        later record record' setup, fun ready transformer text created => ?_⟩
      simp [batch, Batch.create, Marking.batch, factory, setup] at created
  | false =>
      have again : RunsAgain first second := run_again_of_ready marking project layer classes config
        retention retention' build later record record' setup spares
      refine ⟨again, fun ready transformer text created fatal => ?_⟩
      have created' : batch.create marked record' = _ :=
        factory_create_of_ready setup record' config.agent (batch.discovery marked).packages
      refine ⟨Batch.stopsAt_of_fatal created fatal, ?_⟩
      rw [← again.report.processed]
      exact Batch.stopsAt_of_fatal created' (again.report.fatal.trans fatal)

end Runs

/-! ## Two classes in one file -/

/-- The class that shares its file. -/
def sharingName : ClassName := ⟨["a", "C"], by decide, by decide⟩

/-- Two classes in one file, and a class on which the transformer panics. -/
def sharingClasses : CompiledSet :=
  .ofList [(Batch.markedName, ⟨"A.class"⟩), (sharingName, ⟨"A.class"⟩),
    (Batch.panickingName, ⟨"B.class"⟩)]

/-- Marks classes and panics on one of them. -/
def panicky : Marking := ⟨false, [], [Batch.panickingName.dotted], false⟩

theorem sparesManifests_sharing :
    SparesManifests Batch.pair.context.project .plain sharingClasses .standard Batch.pairTree := by
  intro manifest listed _ entry member location denotes located
  have manifests_eq : Batch.pair.context.project.manifests EnhanceConfig.standard.manifest =
      [⟨"ebean-typequery.mf"⟩] := by decide
  rw [manifests_eq, List.mem_singleton] at listed
  subst listed
  have elsewhere : ∀ entry ∈ sharingClasses.entries,
      Batch.pairTree.locate entry.2 ≠ Batch.pairTree.locate ⟨"ebean-typequery.mf"⟩ := by decide
  exact elsewhere entry member (denotes.1.trans located.symm)

/-- The second run declines the class that the first one marked, and panics on the same class. -/
theorem run_again_sharing :
    let batch := panicky.batch Batch.pair.context.project .plain sharingClasses .standard
    let first := batch.runRetaining (.newest 0) (.initial Batch.pairTree) .blank
    let marked := (BuildState.initial Batch.pairTree).withTree first.build.tree
    RunsAgain first (batch.runRetaining (.newest 0) marked first.agent) ∧
      first.report.transformed = [Batch.markedName] ∧
      batch.StopsAt (.newest 0) marked first.agent 2
        "EnhanceError::Panicked:panic during enhancement: scripted panic on a.B[]" := by
  obtain ⟨again, stops⟩ := run_again panicky Batch.pair.context.project .plain sharingClasses
    .standard (.newest 0) (.newest 0) (.initial Batch.pairTree) (.initial Batch.pairTree) .blank
    ((panicky.batch Batch.pair.context.project .plain sharingClasses .standard).runRetaining
      (.newest 0) (.initial Batch.pairTree) .blank).agent sparesManifests_sharing
  exact ⟨again, by decide, (stops _ _ _ rfl (by decide)).2⟩

end Marking

end ClassEnhancement
