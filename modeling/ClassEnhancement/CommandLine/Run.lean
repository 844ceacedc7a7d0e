import ClassEnhancement.ClassFile.Input
import ClassEnhancement.CommandLine.Help
import ClassEnhancement.Enhance.Command
import ClassEnhancement.Service.Compilation

/-!
# Running requests

A request opens the project anew, does what it is asked, and answers by an exit code, output and
possibly an error.  An enhancement fails if its batch ended early or could not write some class.
-/

namespace ClassEnhancement
namespace CommandLine

/-- The answer to a request. -/
structure Answer where
  /-- The exit code. -/
  code : Nat
  /-- What is written. -/
  output : String
  /-- The error, if that is why the request failed. -/
  error : Option String
  deriving DecidableEq, Repr

namespace Answer

/-- The request succeeded. -/
def success (output : String) : Answer := ⟨0, output, none⟩

/-- The request failed with an error. -/
def failure (error : String) : Answer := ⟨1, "", some error⟩

/-- The command line made no sense. -/
def usage : Answer := ⟨2, "", none⟩

end Answer

/-! ## Opening the project -/

/-- Services of the command line share no transformer state. -/
abbrev Desk := Workspace Unit

/-- The settings of a project, or the error of reading them. -/
def loadConfig (tree : FileTree) (target : Target) : Except String ProjectConfig :=
  match target.config with
  | none =>
    match ProjectConfig.load tree target.root with
    | .ok config => .ok config
    | .error _ => .error s!"loading config for {target.root.text}"
  | some path =>
    match tree.readText path with
    | .error _ => .error s!"reading config {path.text}"
    | .ok text =>
      match ProjectConfig.ofText? text with
      | some config => .ok config
      | none => .error s!"parsing config {path.text}"

/-- A project that is open. -/
structure Opened where
  /-- The workspace with its only service. -/
  workspace : Desk
  /-- Index of the service. -/
  index : Nat
  /-- The service. -/
  service : Service Unit

/-- Opens a project with a transformer command. -/
def openProject (programs : Programs) (command : TransformCommand) (tree : FileTree)
    (target : Target) : Except String Opened :=
  match loadConfig tree target with
  | .error error => .error error
  | .ok config =>
    let factory := TransformCommand.factory programs command
    match (Workspace.empty ()).openWith tree target.root config factory with
    | .error _ => .error s!"opening project {target.root.text}"
    | .ok (index, workspace) =>
      match workspace.services[index]? with
      | some service => .ok ⟨workspace, index, service⟩
      | none => .error s!"opening project {target.root.text}"

/-- The command that was given, or none. -/
def commandOf (transformer : Option String) : TransformCommand :=
  match transformer with
  | some line => .ofLine line
  | none => ⟨[]⟩

/-! ## Output -/

/-- A text as a line. -/
def line (text : String) : String := text ++ "\n"

/-- Messages, one on a line. -/
def messageLines (messages : MessageLog) : String :=
  String.join (messages.map fun message => line message.render)

/-- The counts of a batch. -/
def summaryLine (report : BatchReport) : String :=
  line (s!"{report.transformed.length} transformed, {report.unchanged.length} unchanged, "
    ++ s!"{report.failed.length} failed")

/-- What is written when the enhancement is off. -/
def disabledLine (root : FilePath) : String :=
  line s!"enhancement is disabled for {root.text}; run \x60tqe enable\x60 or pass --force"

/-- Whether a batch makes the request fail. -/
def isFailure (report : BatchReport) : Bool := report.fatal.isSome || !report.failed.isEmpty

/-! ## Requests -/

/-- The answer to an enhancement, by the report of its batch. -/
def enhanceAnswer (root : FilePath) (messages : MessageLog) : Option BatchReport → Answer
  | none => .success (messageLines messages ++ disabledLine root)
  | some report =>
    ⟨if isFailure report then 1 else 0, messageLines messages ++ summaryLine report, none⟩

/-- Enhances compiled classes. -/
def enhance (programs : Programs) (tree : FileTree) (target : Target)
    (transformer : Option String) (force : Bool) (classes : List FilePath) : FileTree × Answer :=
  match openProject programs (commandOf transformer) tree target with
  | .error error => (tree, .failure error)
  | .ok opened =>
    match CompiledSet.ofFiles tree classes with
    | .error error => (tree, .failure error.message)
    | .ok compiled =>
      match opened.service.buildProject tree with
      | .error error => (tree, .failure error.message)
      | .ok project =>
        let compilation : Compilation := ⟨⟨project, .plain⟩, compiled⟩
        let running := (opened.workspace, BuildState.initial tree)
        let ((_, build), report) :=
          if force then Workspace.enhance compilation opened.index running
          else Workspace.compilationFinished compilation opened.index running
        (build.tree, enhanceAnswer target.root build.messages report)

/-- Switches the enhancement of a project. -/
def switch (programs : Programs) (tree : FileTree) (target : Target) (on : Bool) :
    FileTree × Answer :=
  match openProject programs ⟨[]⟩ tree target with
  | .error error => (tree, .failure error)
  | .ok opened =>
    match opened.workspace.setEnabled tree opened.service on with
    | (_, tree, .error error) => (tree, .failure error.message)
    | (_, tree, .ok _) =>
      let word := if on then "enabled" else "disabled"
      (tree, .success (line s!"enhancement {word} for {target.root.text}"))

/-- Tells whether the enhancement of a project is on. -/
def status (programs : Programs) (tree : FileTree) (target : Target) : Answer :=
  match openProject programs ⟨[]⟩ tree target with
  | .error error => .failure error
  | .ok opened =>
    .success (line (if opened.workspace.isEnabled opened.service then "enabled" else "disabled"))

/-- Tells the packages of a project. -/
def packages (programs : Programs) (tree : FileTree) (target : Target) : Answer :=
  match openProject programs ⟨[]⟩ tree target with
  | .error error => .failure error
  | .ok opened =>
    match opened.service.buildProject tree with
    | .error error => .failure error.message
    | .ok project =>
      let discovery := opened.service.discover ⟨project, .plain⟩ tree
      .success (messageLines discovery.warnings ++ line discovery.packages.render)

/-- Answers a request. -/
def answer (programs : Programs) (tree : FileTree) : Request → FileTree × Answer
  | .enhance target transformer force classes =>
    enhance programs tree target transformer force classes
  | .switch target on => switch programs tree target on
  | .status target => (tree, status programs tree target)
  | .packages target => (tree, packages programs tree target)
  | .help topic => (tree, .success topic.text)
  | .version => (tree, .success versionText)

/-- Answers a command line. -/
def run (programs : Programs) (tree : FileTree) (arguments : List String) : FileTree × Answer :=
  match Request.ofArguments? arguments with
  | some request => answer programs tree request
  | none => (tree, .usage)

end CommandLine
end ClassEnhancement
