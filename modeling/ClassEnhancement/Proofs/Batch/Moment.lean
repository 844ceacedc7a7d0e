import ClassEnhancement.Enhance.Batch
import Mathlib.Logic.Relation

/-!
# Moments of a batch

A batch that has its transformer passes through moments: between two classes, within the work on
one class, and at its end.  Every request of a transformer, and every class opened or written
back, takes the batch to the next moment.  The moments end where the run of the batch ends.
-/

namespace ClassEnhancement

/-- A class that is being worked on, with the report so far and the classes after it. -/
structure Task where
  /-- The class. -/
  name : ClassName
  /-- Its file. -/
  file : FilePath
  /-- Classes after it. -/
  later : List (ClassName × FilePath)
  /-- Report so far. -/
  report : BatchReport

/-- A moment of a batch that has its transformer. -/
inductive Moment (σ : Type) where
  /-- Between classes. -/
  | between (left : List (ClassName × FilePath)) (run : BatchRun σ)
  /-- Within the work on a class. -/
  | within (task : Task) (work : Work σ) (session : Session)
  /-- The end, with the classes that were not dealt with. -/
  | ended (left : List (ClassName × FilePath)) (run : BatchRun σ) (error : Option EnhanceError)

namespace Moment

variable {σ : Type}

/-- Classes that are not dealt with yet. -/
def left : Moment σ → List (ClassName × FilePath)
  | between left _ => left
  | within task _ _ => (task.name, task.file) :: task.later
  | ended left _ _ => left

/-- The build with the classes remembered. -/
def session : Moment σ → Session
  | between _ run => run.session
  | within _ _ session => session
  | ended _ run _ => run.session

/-- The report so far. -/
def report : Moment σ → BatchReport
  | between _ run => run.report
  | within task _ _ => task.report
  | ended _ run _ => run.report

/-- The files. -/
def tree (moment : Moment σ) : FileTree := moment.session.build.tree

/-- The session in which a class is shown. -/
def shown (session : Session) (name : ClassName) : Session :=
  { session with build := Batch.showClass session.build name }

/-- The run after the bytes of a class were written back, or could not be. -/
def writtenBack (context : BuildContext) (task : Task) (bytes : Bytes) (session : Session)
    (agent : σ) : BatchRun σ :=
  let written := Batch.writeBack context task.name task.file bytes session.build task.report
  ⟨{ session with build := written.1 }, agent, written.2⟩

/-- From one moment to the next. -/
inductive Next (bench : Workbench) (transformer : Transformer σ) : Moment σ → Moment σ → Prop
  /-- No class is left. -/
  | finish (run : BatchRun σ) : Next bench transformer (between [] run) (ended [] run none)
  /-- The file of a class cannot be opened or read. -/
  | unreadable {name : ClassName} {file : FilePath} {later : List (ClassName × FilePath)}
      {run : BatchRun σ} {error : TransformError}
      (opened : Workbench.openClass run.session.build.tree name file = .error error) :
      Next bench transformer (between ((name, file) :: later) run)
        (ended ((name, file) :: later) { run with session := shown run.session name }
          (some (.transform error)))
  /-- A class is handed to the transformer. -/
  | hand {name : ClassName} {file : FilePath} {later : List (ClassName × FilePath)}
      {run : BatchRun σ} {bytes : Bytes}
      (opened : Workbench.openClass run.session.build.tree name file = .ok bytes) :
      Next bench transformer (between ((name, file) :: later) run)
        (within ⟨name, file, later, run.report⟩ (transformer.transform run.agent name bytes)
          (shown run.session name))
  /-- The transformer logs. -/
  | log (task : Task) (output : String) (next : Work σ) (session : Session) :
      Next bench transformer (within task (.log output next) session)
        (within task next
          { session with build := session.build.report (Message.ofOutput output) })
  /-- The transformer loads a class. -/
  | load (task : Task) (classPath : String) (next : Option Bytes → Work σ) (session : Session) :
      Next bench transformer (within task (.load classPath next) session)
        (within task (next (bench.load session classPath).1) (bench.load session classPath).2)
  /-- The transformer changes files behind the back of the build. -/
  | touch (task : Task) (change : FileTree → FileTree) (next : FileTree → Work σ)
      (session : Session) :
      Next bench transformer (within task (.touch change next) session)
        (within task (next session.build.tree)
          { session with build := session.build.withTree (change session.build.tree) })
  /-- The transformer fails. -/
  | fail (task : Task) (agent : σ) (error : TransformError) (session : Session) :
      Next bench transformer (within task (.finish agent (.failed error)) session)
        (ended ((task.name, task.file) :: task.later) ⟨session, agent, task.report⟩
          (some (.transform error)))
  /-- The transformer panics. -/
  | panic (task : Task) (agent : σ) (reason : String) (session : Session) :
      Next bench transformer (within task (.finish agent (.panicked reason)) session)
        (ended ((task.name, task.file) :: task.later) ⟨session, agent, task.report⟩
          (some (.panicked reason)))
  /-- The transformer declines the class. -/
  | decline (task : Task) (agent : σ) (session : Session) :
      Next bench transformer (within task (.finish agent .declined) session)
        (between task.later ⟨session, agent, task.report.addUnchanged task.name⟩)
  /-- The transformer has new bytes for the class. -/
  | replace (task : Task) (agent : σ) (bytes : Bytes) (session : Session) :
      Next bench transformer (within task (.finish agent (.replaced bytes)) session)
        (between task.later (writtenBack bench.context task bytes session agent))

/-- From one moment to a later one, or to itself. -/
def Reaches (bench : Workbench) (transformer : Transformer σ) : Moment σ → Moment σ → Prop :=
  Relation.ReflTransGen (Next bench transformer)

variable {bench : Workbench} {transformer : Transformer σ}

theorem next_unique : Relator.RightUnique (Next bench transformer) := by
  intro before first second firstStep secondStep
  cases firstStep <;> cases secondStep <;> simp_all

theorem reaches_total {start first second : Moment σ}
    (firstReach : Reaches bench transformer start first)
    (secondReach : Reaches bench transformer start second) :
    Reaches bench transformer first second ∨ Reaches bench transformer second first :=
  Relation.ReflTransGen.total_of_right_unique next_unique firstReach secondReach

theorem left_suffix_of_next {before after : Moment σ}
    (step : Next bench transformer before after) : after.left <:+ before.left := by
  cases step with
  | decline | replace => exact List.suffix_cons _ _
  | _ => exact List.suffix_rfl

theorem left_suffix_of_reaches {before after : Moment σ}
    (reach : Reaches bench transformer before after) : after.left <:+ before.left := by
  induction reach with
  | refl => exact List.suffix_rfl
  | tail _ step induction => exact (left_suffix_of_next step).trans induction

/-! ## Running through the moments -/

/-- Work on a class runs through moments within the class. -/
theorem reaches_run (task : Task) (work : Work σ) (session : Session) :
    Reaches bench transformer (within task work session)
      (within task (.finish (bench.run work session).2.1 (bench.run work session).2.2)
        (bench.run work session).1) := by
  induction work generalizing session with
  | finish agent outcome => exact .refl
  | log output next induction => exact .head (.log task output next session) (induction _)
  | load classPath next induction =>
      exact .head (.load task classPath next session) (induction _ _)
  | touch change next induction =>
      exact .head (.touch task change next session) (induction _ _)

/-- The moment after one class was dealt with. -/
def afterStep (name : ClassName) (file : FilePath) (later : List (ClassName × FilePath)) :
    BatchRun σ × Option EnhanceError → Moment σ
  | (run, none) => between later run
  | (run, some error) => ended ((name, file) :: later) run (some error)

variable (bench transformer)

/-- One step of the batch runs through the moments of one class. -/
theorem reaches_step (name : ClassName) (file : FilePath) (later : List (ClassName × FilePath))
    (run : BatchRun σ) :
    Reaches bench transformer (between ((name, file) :: later) run)
      (afterStep name file later (Batch.step bench transformer run name file)) := by
  have shown_tree : (Batch.showClass run.session.build name).tree = run.session.build.tree := rfl
  simp only [Batch.step, Workbench.transformFile, shown_tree]
  cases opened : Workbench.openClass run.session.build.tree name file with
  | error error => exact .single (.unreadable opened)
  | ok bytes =>
      refine .head (.hand opened) ((reaches_run ..).trans (.single ?_))
      simp only [Workbench.transformBytes, shown]
      generalize bench.run (transformer.transform run.agent name bytes)
        { run.session with build := Batch.showClass run.session.build name } = worked
      obtain ⟨session, agent, outcome⟩ := worked
      cases outcome with
      | failed error => exact .fail ⟨name, file, later, run.report⟩ agent error session
      | panicked reason => exact .panic ⟨name, file, later, run.report⟩ agent reason session
      | declined => exact .decline ⟨name, file, later, run.report⟩ agent session
      | replaced bytes => exact .replace ⟨name, file, later, run.report⟩ agent bytes session

/-- The steps of the batch run through the moments of all classes. -/
theorem reaches_steps (entries : List (ClassName × FilePath)) (run : BatchRun σ) :
    ∃ left, Reaches bench transformer (between entries run)
      (ended left (Batch.steps bench transformer entries run).1
        (Batch.steps bench transformer entries run).2) := by
  induction entries generalizing run with
  | nil => exact ⟨[], .single (.finish run)⟩
  | cons entry later induction =>
      obtain ⟨name, file⟩ := entry
      have first := reaches_step bench transformer name file later run
      rw [Batch.steps]
      revert first
      generalize Batch.step bench transformer run name file = dealt
      obtain ⟨middle, error⟩ := dealt
      intro first
      cases error with
      | some error => exact ⟨_, first⟩
      | none =>
          obtain ⟨left, rest⟩ := induction middle
          exact ⟨left, first.trans rest⟩

end Moment

namespace Batch

variable {σ : Type}

/-- The batch has its transformer and passes through a moment. -/
def Passes (batch : Batch σ) (retention : Retention) (build : BuildState) (agent : σ)
    (moment : Moment σ) : Prop :=
  ∃ ready transformer, batch.create build agent = (ready, .ready transformer) ∧
    Moment.Reaches (batch.bench retention) transformer
      (.between batch.classes.entries (batch.start build ready)) moment

/-- What a run leaves behind at the end of its moments. -/
def conclude (run : BatchRun σ) : Option EnhanceError → BatchResult σ
  | none => complete run.session.build run.agent run.report
  | some error => abort run.session.build run.agent run.report error

/-- Of two moments that a batch passes through, one is reached from the other. -/
theorem passes_total {batch : Batch σ} {retention : Retention} {build : BuildState} {agent : σ}
    {first second : Moment σ} (firstPasses : batch.Passes retention build agent first)
    (secondPasses : batch.Passes retention build agent second) :
    ∃ transformer, Moment.Reaches (batch.bench retention) transformer first second ∨
      Moment.Reaches (batch.bench retention) transformer second first := by
  obtain ⟨ready, transformer, created, firstReach⟩ := firstPasses
  obtain ⟨ready', transformer', created', secondReach⟩ := secondPasses
  obtain ⟨rfl, ready_eq⟩ := Prod.mk.inj (created.symm.trans created')
  obtain rfl : transformer = transformer' := by simpa using ready_eq
  exact ⟨transformer, Moment.reaches_total firstReach secondReach⟩

/-- The end of a batch is reached from every moment of it. -/
theorem passes_reaches_end {batch : Batch σ} {retention : Retention} {build : BuildState}
    {agent : σ} {moment : Moment σ} {left : List (ClassName × FilePath)} {run : BatchRun σ}
    {error : Option EnhanceError} (passes : batch.Passes retention build agent moment)
    (ended : batch.Passes retention build agent (.ended left run error)) :
    ∃ transformer,
      Moment.Reaches (batch.bench retention) transformer moment (.ended left run error) := by
  obtain ⟨transformer, later | earlier⟩ := passes_total passes ended
  · exact ⟨transformer, later⟩
  · rcases earlier.cases_head with rfl | ⟨next, step, -⟩
    · exact ⟨transformer, .refl⟩
    · cases step

/-- A batch that has its transformer ends where its moments end. -/
theorem passes_end {batch : Batch σ} (retention : Retention) {build : BuildState} {agent ready : σ}
    {transformer : Transformer σ}
    (created : batch.create build agent = (ready, .ready transformer)) :
    ∃ left run error, batch.Passes retention build agent (.ended left run error) ∧
      batch.runRetaining retention build agent = conclude run error := by
  obtain ⟨left, reach⟩ := Moment.reaches_steps (batch.bench retention) transformer
    batch.classes.entries (batch.start build ready)
  refine ⟨left, _, _, ⟨ready, transformer, created, reach⟩, ?_⟩
  simp only [runRetaining, created]
  generalize steps (batch.bench retention) transformer batch.classes.entries
    (batch.start build ready) = ran
  obtain ⟨run, error⟩ := ran
  cases error with
  | none => rfl
  | some error => rfl

/-- What holds at the start and at every next moment holds whenever the batch passes. -/
theorem Passes.induction {batch : Batch σ} {retention : Retention} {build : BuildState}
    {agent : σ} {invariant : Moment σ → Prop}
    (initial : ∀ ready transformer, batch.create build agent = (ready, .ready transformer) →
      invariant (.between batch.classes.entries (batch.start build ready)))
    (step : ∀ ready transformer before after,
      batch.create build agent = (ready, .ready transformer) →
      batch.Passes retention build agent before →
      Moment.Next (batch.bench retention) transformer before after → invariant before →
      invariant after)
    {moment : Moment σ} (passes : batch.Passes retention build agent moment) :
    invariant moment := by
  obtain ⟨ready, transformer, created, reach⟩ := passes
  induction reach with
  | refl => exact initial ready transformer created
  | tail reach next induction =>
      exact step ready transformer _ _ created ⟨ready, transformer, created, reach⟩ next induction

end Batch
end ClassEnhancement
