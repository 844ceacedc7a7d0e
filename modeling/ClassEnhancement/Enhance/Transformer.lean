import ClassEnhancement.Enhance.Config
import ClassEnhancement.Enhance.Error
import ClassEnhancement.Enhance.Resolver
import ClassEnhancement.Manifest.PackageSet

/-!
# Transformers

A transformer is asked for one class at a time.  Its work is a sequence of requests to the build
around it: to log output, to load another class, and, for transformers that reach outside, to look
at and change the files directly.  The work ends in an outcome.  Running it answers the requests
from the build state.
-/

namespace ClassEnhancement

/-- How a call of a transformer ends. -/
inductive Outcome where
  /-- New bytes for the class. -/
  | replaced (bytes : Bytes)
  /-- The class stays as it is. -/
  | declined
  /-- An error. -/
  | failed (error : TransformError)
  /-- A panic, with the text of its payload. -/
  | panicked (reason : String)
  deriving DecidableEq, Repr

/-- The work of a transformer on one class, which ends with its own next state. -/
inductive Work (σ : Type) where
  /-- The end. -/
  | finish (state : σ) (outcome : Outcome)
  /-- Writes output to the log of the build. -/
  | log (output : String) (next : Work σ)
  /-- Loads a class by its slash spelling. -/
  | load (classPath : String) (next : Option Bytes → Work σ)
  /-- Changes the files behind the back of the build; the work goes on with the files as they
  were. -/
  | touch (change : FileTree → FileTree) (next : FileTree → Work σ)

/-- Work that touches files only through the build. -/
def Work.StaysInside {σ : Type} : Work σ → Prop
  | .finish _ _ => True
  | .log _ next => next.StaysInside
  | .load _ next => ∀ answer, (next answer).StaysInside
  | .touch _ _ => False

/-- A transformer with a state that it keeps between classes. -/
structure Transformer (σ : Type) where
  /-- The work on a class with its bytes. -/
  transform : σ → ClassName → Bytes → Work σ

/-- What the creation of a transformer comes to. -/
inductive Creation (σ : Type) where
  /-- A transformer. -/
  | ready (transformer : Transformer σ)
  /-- A refusal. -/
  | refused (error : EnhanceError)
  /-- A panic, with the text of its payload. -/
  | panicked (reason : String)

/-- Creates transformers. -/
structure TransformerFactory (σ : Type) where
  /-- Creates a transformer for a set of packages. -/
  create : σ → AgentOptions → PackageSet → σ × Creation σ

/-- A factory whose transformers touch files only through the build. -/
def TransformerFactory.StaysInside {σ : Type} (factory : TransformerFactory σ) : Prop :=
  ∀ agent options packages ready transformer,
    factory.create agent options packages = (ready, .ready transformer) →
    ∀ state name bytes, (transformer.transform state name bytes).StaysInside

/-- Text of a panic whose payload is no text. -/
def unknownPanic : String := "unknown panic payload"

/-! ## Running -/

/-- The build state with what the resolver remembers. -/
structure Session where
  /-- The state of the build. -/
  build : BuildState
  /-- Classes remembered. -/
  cache : ClassCache

/-- What stays the same while transformers run. -/
structure Workbench where
  /-- The build. -/
  context : BuildContext
  /-- The resolver that answers requests for classes. -/
  resolver : Resolver

namespace Workbench

/-- Answers a request for a class. -/
def load (bench : Workbench) (session : Session) (classPath : String) : Option Bytes × Session :=
  let lookup := bench.resolver.resolve bench.context session.build.tree session.cache classPath
  (lookup.result, ⟨session.build.report lookup.warnings, lookup.cache⟩)

/-- Runs work to its end. -/
def run {σ : Type} (bench : Workbench) : Work σ → Session → Session × σ × Outcome
  | .finish state outcome, session => (session, state, outcome)
  | .log output next, session =>
    bench.run next { session with build := session.build.report (Message.ofOutput output) }
  | .load classPath next, session =>
    let (answer, session) := bench.load session classPath
    bench.run (next answer) session
  | .touch change next, session =>
    let before := session.build.tree
    bench.run (next before) { session with build := session.build.withTree (change before) }

/-- The bytes of a compiled file: opening it and reading it fail apart. -/
def openClass (tree : FileTree) (name : ClassName) (file : FilePath) :
    Except TransformError Bytes :=
  match tree.locate file with
  | .error cause => .error (.cannotOpen file cause)
  | .ok location =>
    match tree.contentAt location with
    | .ok bytes => .ok bytes
    | .error cause => .error (.cannotRead name.dotted cause)

/-- Runs a transformer on the bytes of a class, unless they could not be read. -/
def transformBytes {σ : Type} (bench : Workbench) (transformer : Transformer σ) (state : σ)
    (name : ClassName) (bytes : Except TransformError Bytes) (session : Session) :
    Session × σ × Outcome :=
  match bytes with
  | .error error => (session, state, .failed error)
  | .ok bytes => bench.run (transformer.transform state name bytes) session

/-- Runs a transformer on a compiled file. -/
def transformFile {σ : Type} (bench : Workbench) (transformer : Transformer σ) (state : σ)
    (name : ClassName) (file : FilePath) (session : Session) : Session × σ × Outcome :=
  bench.transformBytes transformer state name (openClass session.build.tree name file) session

/-! ## Diagnostic texts -/

/-- Diagnostic text of what answers requests for classes. -/
def describeLoader (bench : Workbench) : String :=
  s!"ResolverClassLoader \x7b resolver: {bench.resolver.describe} \x7d"

/-- Diagnostic text of what a transformer is given for one class. -/
def describeScope : String := "TransformScope \x7b .. \x7d"

/-- Diagnostic text of a transformer that is ready to run. -/
def describeAdapter : String := "StreamTransform \x7b .. \x7d"

/-- Diagnostic text of what takes messages. -/
def describeReporter : String := "Reporter \x7b .. \x7d"

end Workbench
end ClassEnhancement
