import ClassEnhancement.Proofs.Batch.Rewriting

/-!
# Batches by verdict

A transformer answers from the class alone when its work on a class changes no file and ends in an
outcome that the packages, the name and the bytes of the class decide, whatever it logs or loads on
the way.  A batch with such a transformer is determined by its files, its packages and the answer:
what the transformer keeps and what the resolver remembers take no part.
-/

namespace ClassEnhancement

/-- Work that changes no file and ends in one outcome, whatever it is answered. -/
def Work.EndsIn {σ : Type} (outcome : Outcome) : Work σ → Prop
  | .finish _ ended => ended = outcome
  | .log _ next => next.EndsIn outcome
  | .load _ next => ∀ answer, (next answer).EndsIn outcome
  | .touch change next => (∀ tree, change tree = tree) ∧ ∀ tree, (next tree).EndsIn outcome

/-- A transformer whose outcome for a class depends on its name and bytes. -/
def Transformer.AnswersBy {σ : Type} (transformer : Transformer σ)
    (answer : ClassName → Bytes → Outcome) : Prop :=
  ∀ state name bytes, (transformer.transform state name bytes).EndsIn (answer name bytes)

/-- A factory whose transformers depend on the packages, and on the name and bytes of a class. -/
def TransformerFactory.AnswersBy {σ : Type} (factory : TransformerFactory σ)
    (answer : PackageSet → ClassName → Bytes → Outcome) : Prop :=
  ∀ agent options packages ready transformer,
    factory.create agent options packages = (ready, .ready transformer) →
    transformer.AnswersBy (answer packages)

/-! ## Marking transformers -/

namespace Marking

/-- What a marking transformer makes of a class. -/
def answer (marking : Marking) (packages : PackageSet) (name : ClassName) (bytes : Bytes) :
    Outcome :=
  if name.dotted ∈ marking.panicking then .panicked s!"scripted panic on {name.dotted}"
  else if name.dotted ∈ marking.failing then .failed (.agent name.dotted "scripted failure")
  else if packages.covers name ∧ isMarked bytes = false then .replaced (addMark bytes)
  else .declined

theorem loadSuperclass_endsIn (marking : Marking) (record : MarkingRecord) (bytes : Bytes)
    {next : MarkingRecord → Work MarkingRecord} {outcome : Outcome}
    (ends : ∀ record, (next record).EndsIn outcome) :
    (marking.loadSuperclass record bytes next).EndsIn outcome := by
  unfold loadSuperclass
  split
  · exact ends record
  split
  · exact fun answer => ends _
  · exact ends record

theorem factory_answersBy (marking : Marking) : marking.factory.AnswersBy marking.answer := by
  intro agent options packages ready transformer created state name bytes
  unfold factory at created
  split at created
  · cases created
  cases created
  change (marking.transform packages state name bytes).EndsIn _
  unfold transform answer
  by_cases panics : name.dotted ∈ marking.panicking
  · simp only [panics, if_true]
    rfl
  by_cases fails : name.dotted ∈ marking.failing
  · simp only [panics, fails, if_true, if_false]
    rfl
  simp only [panics, fails, if_false]
  refine marking.loadSuperclass_endsIn _ bytes fun record => ?_
  unfold markClass
  split <;> rfl

end Marking

/-! ## Files and reports -/

/-- What counts of a batch under way. -/
structure Standing where
  /-- The files. -/
  tree : FileTree
  /-- The report so far. -/
  report : BatchReport

/-- The files and the report of a batch under way. -/
def BatchRun.standing {σ : Type} (run : BatchRun σ) : Standing :=
  ⟨run.session.build.tree, run.report⟩

/-- The files and the report that a batch leaves behind. -/
def BatchResult.standing {σ : Type} (result : BatchResult σ) : Standing :=
  ⟨result.build.tree, result.report⟩

/-- What the transformer makes of a class file, which may not be readable. -/
def verdict (answer : ClassName → Bytes → Outcome) (tree : FileTree) (name : ClassName)
    (file : FilePath) : Outcome :=
  match Workbench.openClass tree name file with
  | .error error => .failed error
  | .ok bytes => answer name bytes

namespace Standing

/-- Deals with a class by its verdict, and says what ends the batch, if anything does. -/
def settle (layer : FileLayer) (standing : Standing) (name : ClassName) (file : FilePath) :
    Outcome → Standing × Option EnhanceError
  | .failed error => (standing, some (.transform error))
  | .panicked reason => (standing, some (.panicked reason))
  | .declined => (⟨standing.tree, standing.report.addUnchanged name⟩, none)
  | .replaced bytes =>
    if layer.overwrites standing.tree file then
      (⟨standing.tree.overwrite file bytes, standing.report.addTransformed name⟩, none)
    else (⟨standing.tree, standing.report.addFailed name⟩, none)

/-- Deals with classes in order, up to the first one that ends the batch. -/
def settleAll (layer : FileLayer) (answer : ClassName → Bytes → Outcome) :
    List (ClassName × FilePath) → Standing → Standing × Option EnhanceError
  | [], standing => (standing, none)
  | (name, file) :: later, standing =>
    match standing.settle layer name file (verdict answer standing.tree name file) with
    | (standing, some error) => (standing, some error)
    | (standing, none) => settleAll layer answer later standing

end Standing

/-- The report once it is known what ended the batch. -/
def BatchReport.conclude (report : BatchReport) : Option EnhanceError → BatchReport
  | none => { report with completed := true }
  | some error => { report with fatal := some error.report }

/-! ## Class files -/

/-- In trees of one shape a class file cannot be opened for one reason, or it can be in both. -/
theorem Workbench.openClass_cases {left right : FileTree} (same : FileTree.SameShape left right)
    (name : ClassName) (file : FilePath) :
    (∃ error, openClass left name file = .error error ∧
        openClass right name file = .error error) ∨
      ∃ location before after, left.locate file = .ok location ∧
        left.lookup? location = some (.file before) ∧
        right.lookup? location = some (.file after) ∧
        openClass left name file = .ok before ∧ openClass right name file = .ok after := by
  unfold openClass FileTree.contentAt
  rw [← same.locate_eq file]
  cases left.locate file with
  | error cause => exact .inl ⟨.cannotOpen file cause, rfl, rfl⟩
  | ok location =>
      have shapes := same.lookup location
      simp only
      cases here : left.lookup? location with
      | none =>
          rw [here] at shapes
          rw [Option.map_eq_none_iff.mp shapes.symm]
          exact .inl ⟨_, rfl, rfl⟩
      | some entry =>
          cases there : right.lookup? location with
          | none => simp [here, there] at shapes
          | some other =>
              cases entry <;> cases other <;> simp [here, there, Entry.shape] at shapes
              · exact .inr ⟨location, _, _, rfl, here, there, rfl, rfl⟩
              · exact .inl ⟨_, rfl, rfl⟩
              · exact .inl ⟨_, rfl, rfl⟩

theorem verdict_eq {left right : FileTree} (same : FileTree.SameShape left right)
    (answer : ClassName → Bytes → Outcome) (name : ClassName) {file : FilePath}
    (agree : ∀ location, left.DenotesFile file location →
      left.lookup? location = right.lookup? location) :
    verdict answer left name file = verdict answer right name file := by
  rcases Workbench.openClass_cases same name file with
    ⟨error, opened, opened'⟩ | ⟨location, before, after, located, found, found', opened, opened'⟩
  · rw [verdict, verdict, opened, opened']
  · have contents := agree location ⟨located, before, found⟩
    rw [found, found'] at contents
    obtain rfl : before = after := by simpa using contents
    rw [verdict, verdict, opened, opened']

/-! ## Packages -/

/-- The manifests that discovery looks at. -/
def Project.manifests (project : Project) (location : ManifestLocation) : List FilePath :=
  project.modules.filterMap (fun owner =>
      owner.output.map fun directory => directory.join location.relative) ++
    project.index.filesNamed location.fileName

/-- Discovery depends on what is read from the manifests. -/
theorem Discovery.ofProject_congr (project : Project) (location : ManifestLocation)
    {layer layer' : FileAccess} {tree tree' : FileTree}
    (same : ∀ manifest ∈ project.manifests location,
      layer.read tree manifest = layer'.read tree' manifest) :
    ofProject ⟨project, layer⟩ tree location = ofProject ⟨project, layer'⟩ tree' location := by
  have modules_eq : project.modules.map (Contribution.ofModule layer tree location) =
      project.modules.map (Contribution.ofModule layer' tree' location) := by
    refine List.map_congr_left fun owner member => ?_
    unfold Contribution.ofModule
    cases output : owner.output with
    | none => rfl
    | some directory =>
        have listed : directory.join location.relative ∈ project.manifests location :=
          List.mem_append_left _ (List.mem_filterMap.mpr ⟨owner, member, by simp [output]⟩)
        simp only [same _ listed]
  have files_eq : (project.index.filesNamed location.fileName).map
        (Contribution.ofFile layer tree) =
      (project.index.filesNamed location.fileName).map (Contribution.ofFile layer' tree') := by
    refine List.map_congr_left fun path member => ?_
    rw [Contribution.ofFile, Contribution.ofFile, same path (List.mem_append_right _ member)]
  simp only [ofProject, find, modules_eq, files_eq]

/-! ## Running -/

theorem Workbench.run_of_endsIn {σ : Type} (bench : Workbench) {work : Work σ}
    {outcome : Outcome} (ends : work.EndsIn outcome) (session : Session) :
    (bench.run work session).1.build.tree = session.build.tree ∧
      (bench.run work session).2.2 = outcome := by
  induction work generalizing session with
  | finish state ended => exact ⟨rfl, ends⟩
  | log output next induction => exact induction ends _
  | load classPath next induction => exact induction _ (ends _) _
  | touch change next induction =>
      obtain ⟨same_tree, same_outcome⟩ := induction session.build.tree (ends.2 _)
        { session with build := session.build.withTree (change session.build.tree) }
      exact ⟨same_tree.trans (ends.1 _), same_outcome⟩

theorem Workbench.transformFile_of_answersBy {σ : Type} (bench : Workbench)
    {transformer : Transformer σ} {answer : ClassName → Bytes → Outcome}
    (answers : transformer.AnswersBy answer) (state : σ) (name : ClassName) (file : FilePath)
    (session : Session) :
    (bench.transformFile transformer state name file session).1.build.tree = session.build.tree ∧
      (bench.transformFile transformer state name file session).2.2 =
        verdict answer session.build.tree name file := by
  unfold transformFile transformBytes verdict
  cases openClass session.build.tree name file with
  | error error => exact ⟨rfl, rfl⟩
  | ok bytes => exact bench.run_of_endsIn (answers state name bytes) session

namespace Batch

variable {σ : Type} {bench : Workbench} {layer : FileLayer} {transformer : Transformer σ}
  {answer : ClassName → Bytes → Outcome}

theorem step_settles (access_eq : bench.context.layer = layer.access)
    (answers : transformer.AnswersBy answer) (run : BatchRun σ) (name : ClassName)
    (file : FilePath) :
    ((step bench transformer run name file).1.standing,
        (step bench transformer run name file).2) =
      run.standing.settle layer name file (verdict answer run.standing.tree name file) := by
  obtain ⟨same_tree, ended⟩ := bench.transformFile_of_answersBy answers run.agent name file
    { run.session with build := showClass run.session.build name }
  change _ = verdict answer run.standing.tree name file at ended
  rw [step, ← ended]
  generalize bench.transformFile transformer run.agent name file
    { run.session with build := showClass run.session.build name } = worked at same_tree ⊢
  obtain ⟨session, agent, outcome⟩ := worked
  replace same_tree : session.build.tree = run.standing.tree := same_tree
  cases outcome with
  | failed error => simp only [Standing.settle, BatchRun.standing, same_tree]
  | panicked reason => simp only [Standing.settle, BatchRun.standing, same_tree]
  | declined => simp only [Standing.settle, BatchRun.standing, same_tree]
  | replaced bytes =>
      simp only [Standing.settle, ← same_tree]
      rcases writeBack_cases access_eq name file bytes session.build run.report with
        ⟨refused, messages, written⟩ | ⟨overwritten, written⟩
      · simp only [written, refused]
        rfl
      · simp only [written, overwritten]
        rfl

theorem steps_settle (access_eq : bench.context.layer = layer.access)
    (answers : transformer.AnswersBy answer) (entries : List (ClassName × FilePath))
    (run : BatchRun σ) :
    ((steps bench transformer entries run).1.standing, (steps bench transformer entries run).2) =
      Standing.settleAll layer answer entries run.standing := by
  induction entries generalizing run with
  | nil => rfl
  | cons entry later induction =>
      obtain ⟨name, file⟩ := entry
      have first := step_settles access_eq answers run name file
      rw [steps, Standing.settleAll, ← first]
      generalize step bench transformer run name file = dealt
      obtain ⟨middle, error⟩ := dealt
      cases error with
      | some error => rfl
      | none => exact induction middle

theorem tree_announce (batch : Batch σ) (build : BuildState) :
    (batch.announce build).tree = build.tree := rfl

theorem standing_abort (build : BuildState) (agent : σ) (report : BatchReport)
    (error : EnhanceError) :
    (abort build agent report error).standing = ⟨build.tree, report.conclude (some error)⟩ := rfl

theorem standing_complete (build : BuildState) (agent : σ) (report : BatchReport) :
    (complete build agent report).standing = ⟨build.tree, report.conclude none⟩ := rfl

variable {batch : Batch σ} {build : BuildState} {agent ready : σ}

/-- A batch that has its transformer settles its classes. -/
theorem run_settles (retention : Retention) (access_eq : batch.context.layer = layer.access)
    (created : batch.create build agent = (ready, .ready transformer))
    (answers : transformer.AnswersBy answer) {last : Standing} {error : Option EnhanceError}
    (settled : Standing.settleAll layer answer batch.classes.entries
      ⟨build.tree, { BatchReport.blank with packages := (batch.discovery build).packages }⟩ =
        (last, error)) :
    (batch.runRetaining retention build agent).standing =
      ⟨last.tree, last.report.conclude error⟩ := by
  have stepped : ((steps (batch.bench retention) transformer batch.classes.entries
        (batch.start build ready)).1.standing,
      (steps (batch.bench retention) transformer batch.classes.entries
        (batch.start build ready)).2) = (last, error) :=
    (steps_settle access_eq answers _ _).trans settled
  simp only [runRetaining, created]
  generalize steps (batch.bench retention) transformer batch.classes.entries
    (batch.start build ready) = ran at stepped ⊢
  obtain ⟨run, ended⟩ := ran
  obtain ⟨rfl, rfl⟩ := Prod.mk.inj stepped
  cases ended with
  | none => exact standing_complete ..
  | some error => exact standing_abort ..

end Batch
end ClassEnhancement
