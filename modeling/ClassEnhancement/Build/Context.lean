import ClassEnhancement.Build.FileLayer
import ClassEnhancement.Build.Message
import ClassEnhancement.Build.Project

/-!
# The build around an enhancement

The context is fixed while a build runs: the project and its file layer.  The state changes: the
files, the messages, the progress, and the list of files written.
-/

namespace ClassEnhancement

/-- What is fixed while a build runs. -/
structure BuildContext where
  /-- The project. -/
  project : Project
  /-- How its files are reached. -/
  layer : FileAccess

/-- What a progress indicator shows. -/
structure Progress where
  /-- Whether the end is not foreseen. -/
  indeterminate : Bool
  /-- First line. -/
  text : String
  /-- Second line. -/
  detail : String
  deriving DecidableEq, Repr

/-- What changes while a build runs. -/
structure BuildState where
  /-- The files. -/
  tree : FileTree
  /-- Messages so far. -/
  messages : MessageLog
  /-- The progress shown. -/
  progress : Progress
  /-- Files written through the layer so far. -/
  written : List FilePath

namespace BuildState

/-- The state in which a build begins. -/
def initial (tree : FileTree) : BuildState := ⟨tree, [], ⟨false, "", ""⟩, []⟩

/-- The state with further messages. -/
def report (state : BuildState) (messages : List Message) : BuildState :=
  { state with messages := state.messages ++ messages }

/-- The state with other files. -/
def withTree (state : BuildState) (tree : FileTree) : BuildState := { state with tree }

@[simp]
theorem tree_report (state : BuildState) (messages : List Message) :
    (state.report messages).tree = state.tree := rfl

@[simp]
theorem messages_report (state : BuildState) (messages : List Message) :
    (state.report messages).messages = state.messages ++ messages := rfl

@[simp]
theorem messages_withTree (state : BuildState) (tree : FileTree) :
    (state.withTree tree).messages = state.messages := rfl

end BuildState

/-- Diagnostic text of a context with its messages. -/
def BuildContext.describe (context : BuildContext) (messages : MessageLog) : String :=
  s!"LocalCompileContext \x7b project: {Text.quoted context.project.name}, "
    ++ s!"messages: {messages.describe}, .. \x7d"

end ClassEnhancement
