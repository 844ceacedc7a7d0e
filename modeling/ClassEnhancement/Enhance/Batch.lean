import ClassEnhancement.Enhance.Transformer
import ClassEnhancement.Manifest.Discovery

/-!
# Enhancement batches

One batch runs for one compilation: it discovers the packages, creates a transformer, and hands it
every freshly compiled class in order.  New bytes overwrite the file of the class.  A class that
cannot be written is reported and the batch goes on; any other error, and a panic, ends the batch
and is reported once.
-/

namespace ClassEnhancement

/-- What a batch did. -/
structure BatchReport where
  /-- Packages in force, once there was a transformer. -/
  packages : PackageSet
  /-- Classes that were rewritten. -/
  transformed : List ClassName
  /-- Classes that the transformer declined. -/
  unchanged : List ClassName
  /-- Classes that could not be written. -/
  failed : List ClassName
  /-- What ended the batch early. -/
  fatal : Option String
  /-- Whether the batch came to its end. -/
  completed : Bool
  deriving DecidableEq

namespace BatchReport

/-- The report of a batch that has done nothing. -/
def blank : BatchReport := ⟨.empty, [], [], [], none, false⟩

instance : Inhabited BatchReport := ⟨blank⟩

/-- Number of classes dealt with. -/
def processed (report : BatchReport) : Nat :=
  report.transformed.length + report.unchanged.length + report.failed.length

/-- One more class that was rewritten. -/
def addTransformed (report : BatchReport) (name : ClassName) : BatchReport :=
  { report with transformed := report.transformed ++ [name] }

/-- One more class that was declined. -/
def addUnchanged (report : BatchReport) (name : ClassName) : BatchReport :=
  { report with unchanged := report.unchanged ++ [name] }

/-- One more class that could not be written. -/
def addFailed (report : BatchReport) (name : ClassName) : BatchReport :=
  { report with failed := report.failed ++ [name] }

end BatchReport

/-- A batch before it runs. -/
structure Batch (σ : Type) where
  /-- The build. -/
  context : BuildContext
  /-- Freshly compiled classes. -/
  classes : CompiledSet
  /-- Creates the transformer. -/
  factory : TransformerFactory σ
  /-- Settings. -/
  config : EnhanceConfig

/-- A batch while it runs: the build, the transformer's state, and the report so far. -/
structure BatchRun (σ : Type) where
  /-- The build state with the classes remembered. -/
  session : Session
  /-- State of the transformer. -/
  agent : σ
  /-- Report so far. -/
  report : BatchReport

/-- A batch after it ran. -/
structure BatchResult (σ : Type) where
  /-- State of the build. -/
  build : BuildState
  /-- State of the transformer. -/
  agent : σ
  /-- The report. -/
  report : BatchReport

namespace Batch

/-! ## Messages -/

/-- The message that names the packages in force. -/
def usingPackages (packages : PackageSet) : Message :=
  .info s!"Ebean Query bean enhancement using packages:{packages.render}"

/-- The message that a batch came to its end. -/
def completion : Message := .info "Ebean query bean enhancement complete!"

/-- The message for a class whose file the layer does not know. -/
def fileNotFound (name : ClassName) : Message :=
  .failure s!"Ebean query bean - outputFile not found writing {name.dotted}"

/-- The message for a class whose file cannot be written. -/
def cannotWrite (name : ClassName) (file : FilePath) (cause : FileError) : Message :=
  .failure s!"Ebean query bean - error writing {name.dotted} to {file.text}: {cause.message}"

variable {σ : Type}

/-! ## Steps -/

/-- Overwrites the file of a class. -/
def writeBack (context : BuildContext) (name : ClassName) (file : FilePath) (bytes : Bytes)
    (build : BuildState) (report : BatchReport) : BuildState × BatchReport :=
  match context.layer.find? build.tree file with
  | none => (build.report [fileNotFound name], report.addFailed name)
  | some handle =>
    match context.layer.write build.tree handle bytes with
    | .ok tree =>
      ({ build with tree, written := build.written ++ [handle] }, report.addTransformed name)
    | .error cause => (build.report [cannotWrite name file cause], report.addFailed name)

/-- Shows the class that is being dealt with. -/
def showClass (build : BuildState) (name : ClassName) : BuildState :=
  { build with progress := { build.progress with detail := name.dotted } }

/-- Deals with one class, and says what ends the batch, if anything does. -/
def step (bench : Workbench) (transformer : Transformer σ) (run : BatchRun σ) (name : ClassName)
    (file : FilePath) : BatchRun σ × Option EnhanceError :=
  let shown := { run.session with build := showClass run.session.build name }
  let (session, agent, outcome) := bench.transformFile transformer run.agent name file shown
  match outcome with
  | .failed error => (⟨session, agent, run.report⟩, some (.transform error))
  | .panicked reason => (⟨session, agent, run.report⟩, some (.panicked reason))
  | .declined => (⟨session, agent, run.report.addUnchanged name⟩, none)
  | .replaced bytes =>
    let (build, report) := writeBack bench.context name file bytes session.build run.report
    (⟨{ session with build }, agent, report⟩, none)

/-- Deals with classes in order, up to the first one that ends the batch. -/
def steps (bench : Workbench) (transformer : Transformer σ) :
    List (ClassName × FilePath) → BatchRun σ → BatchRun σ × Option EnhanceError
  | [], run => (run, none)
  | (name, file) :: rest, run =>
    match step bench transformer run name file with
    | (run, some error) => (run, some error)
    | (run, none) => steps bench transformer rest run

/-! ## The whole batch -/

/-- Ends a batch by an error. -/
def abort (build : BuildState) (agent : σ) (report : BatchReport) (error : EnhanceError) :
    BatchResult σ :=
  ⟨build.report [.failure error.report], agent, { report with fatal := some error.report }⟩

/-- Ends a batch that dealt with every class. -/
def complete (build : BuildState) (agent : σ) (report : BatchReport) : BatchResult σ :=
  ⟨build.report [completion], agent, { report with completed := true }⟩

/-- Shows that the batch deals with classes. -/
def showStart (config : EnhanceConfig) (build : BuildState) : BuildState :=
  { build with
    progress := { build.progress with indeterminate := true, text := config.progressLabel } }

/-- What the batch works with, when its resolver recalls what the retention chooses. -/
def bench (batch : Batch σ) (retention : Retention) : Workbench :=
  ⟨batch.context, .retaining retention batch.classes⟩

/-- The packages that the batch finds. -/
def discovery (batch : Batch σ) (build : BuildState) : Discovery :=
  Discovery.ofProject batch.context build.tree batch.config.manifest

/-- The build once the packages are found. -/
def announce (batch : Batch σ) (build : BuildState) : BuildState :=
  let discovery := batch.discovery build
  build.report (discovery.warnings ++ [usingPackages discovery.packages])

/-- What the factory comes to for the packages found. -/
def create (batch : Batch σ) (build : BuildState) (agent : σ) : σ × Creation σ :=
  batch.factory.create agent batch.config.agent (batch.discovery build).packages

/-- The run before the first class. -/
def start (batch : Batch σ) (build : BuildState) (agent : σ) : BatchRun σ where
  session := ⟨showStart batch.config (batch.announce build), .empty⟩
  agent
  report := { BatchReport.blank with packages := (batch.discovery build).packages }

/-- Runs the batch on a build, with the state that its factory is in and with any retention. -/
def runRetaining (batch : Batch σ) (retention : Retention) (build : BuildState) (agent : σ) :
    BatchResult σ :=
  match batch.create build agent with
  | (agent, .refused error) => abort (batch.announce build) agent .blank error
  | (agent, .panicked reason) => abort (batch.announce build) agent .blank (.panicked reason)
  | (agent, .ready transformer) =>
    match steps (batch.bench retention) transformer batch.classes.entries
      (batch.start build agent) with
    | (run, some error) => abort run.session.build run.agent run.report error
    | (run, none) => complete run.session.build run.agent run.report

/-- Runs the batch on a build, with the state that its factory is in. -/
def run (batch : Batch σ) (build : BuildState) (agent : σ) : BatchResult σ :=
  batch.runRetaining (.newest batch.config.cacheCapacity) build agent

/-- Diagnostic text. -/
def describe (batch : Batch σ) : String :=
  s!"EnhancementBatch \x7b classes: {batch.classes.size}, config: {batch.config.describe}, .. \x7d"

end Batch
end ClassEnhancement
