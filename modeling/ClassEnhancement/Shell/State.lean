import ClassEnhancement.OrderedMap
import ClassEnhancement.Program.Basic
import ClassEnhancement.Shell.Octets
import ClassEnhancement.Shell.Syntax

/-!
# The state of a shell

While a script runs, the shell holds the files, the input that is left, what was written so far,
variables, functions and arguments, and the status of the last command.  Output goes to numbered
buffers, of which the first two are the output and the errors of the script, or to files.
-/

namespace ClassEnhancement
namespace Shell

/-- Where output goes. -/
inductive Sink where
  /-- To a buffer. -/
  | buffer (index : Nat)
  /-- To the end of a file. -/
  | file (path : FilePath)
  /-- Nowhere. -/
  | nowhere
  deriving DecidableEq, Repr

/-- Where the two outputs of a command go. -/
structure Streams where
  /-- What it writes. -/
  output : Sink
  /-- What it writes as errors. -/
  errors : Sink
  deriving DecidableEq, Repr

/-- The streams of a whole script. -/
def Streams.standard : Streams := ⟨.buffer 0, .buffer 1⟩

/-- Streams with another sink for one of them. -/
def Streams.put (streams : Streams) (descriptor : Nat) (sink : Sink) : Streams :=
  match descriptor with
  | 1 => { streams with output := sink }
  | 2 => { streams with errors := sink }
  | _ => streams

/-- What a command has ended besides itself. -/
inductive Ending where
  /-- The script. -/
  | script (status : ExitStatus)
  /-- The function that the command is in. -/
  | function
  /-- A number of loops that the command is in, or the current round of the outermost of them. -/
  | loop (count : Nat) (again : Bool)
  deriving DecidableEq, Repr

/-- Options that a script sets. -/
structure Options where
  /-- Whether a failing command ends the script. -/
  stopsOnFailure : Bool
  /-- Whether a variable that is not set ends the script. -/
  stopsOnUnset : Bool
  deriving DecidableEq, Repr

/-- The options after some letters are switched on or off. -/
def Options.switch (options : Options) (letters : List Char) (on : Bool) : Options where
  stopsOnFailure := if letters.contains 'e' then on else options.stopsOnFailure
  stopsOnUnset := if letters.contains 'u' then on else options.stopsOnUnset

/-- A running shell. -/
structure State where
  /-- The files. -/
  tree : FileTree
  /-- Input that is not read yet. -/
  input : Bytes
  /-- Buffers. -/
  buffers : List Bytes
  /-- Where output goes. -/
  streams : Streams
  /-- Variables. -/
  bindings : OrderedMap String String
  /-- Names of the variables that programs get. -/
  exported : List String
  /-- Functions. -/
  functions : OrderedMap String Command
  /-- Name of the script. -/
  name : String
  /-- Arguments of the script, or of the function that runs. -/
  arguments : List String
  /-- Line of the command that runs. -/
  line : Nat
  /-- Status of the last command. -/
  status : Nat
  /-- Status of the last script inside the words of the command that runs. -/
  inner : Option Nat
  /-- Number of loops that the command is in. -/
  loops : Nat
  /-- What the last command has ended, if it has. -/
  ended : Option Ending
  /-- Options. -/
  options : Options

namespace State

/-- The state in which a script begins. -/
def initial (tree : FileTree) (input : Bytes) (environment : List (String × String)) : State where
  tree
  input
  buffers := [[], []]
  streams := .standard
  bindings := .ofList environment
  exported := environment.map Prod.fst
  functions := .empty
  name := "sh"
  arguments := []
  line := 1
  status := 0
  inner := none
  loops := 0
  ended := none
  options := ⟨false, false⟩

/-- The state with another status. -/
def withStatus (state : State) (status : Nat) : State := { state with status }

/-- The state with a status that tells whether something holds. -/
def holds (state : State) (condition : Bool) : State :=
  state.withStatus (if condition then 0 else 1)

/-- The state with a value for a variable. -/
def setVariable (state : State) (name value : String) : State :=
  { state with bindings := state.bindings.insert name value }

/-- Whether something has ended. -/
def hasEnded (state : State) : Bool := state.ended.isSome

/-- The state in which the script has ended. -/
def finish (state : State) (status : ExitStatus) : State :=
  { state with ended := some (.script status) }

/-- Variables that programs get. -/
def environment (state : State) : List (String × String) :=
  state.bindings.entries.filter fun entry => state.exported.contains entry.1

/-- Writes to a sink; what cannot be written is lost. -/
def writeTo (state : State) (sink : Sink) (bytes : Bytes) : State :=
  match sink with
  | .nowhere => state
  | .buffer index =>
    { state with buffers := state.buffers.modify index fun before => before ++ bytes }
  | .file path =>
    let before := (state.tree.read path).toOption.getD []
    { state with tree := (state.tree.write path (before ++ bytes)).toOption.getD state.tree }

/-- Writes output. -/
def write (state : State) (bytes : Bytes) : State := state.writeTo state.streams.output bytes

/-- Writes a text as output. -/
def writeText (state : State) (text : String) : State := state.write (bytesOfText text)

/-- Writes an error message and sets the status. -/
def complain (state : State) (message : String) (status : Nat) : State :=
  (state.writeTo state.streams.errors (bytesOfText (message ++ "\n"))).withStatus status

/-- Writes an error message of the shell itself, which names the script and the line. -/
def complainAt (state : State) (message : String) (status : Nat) : State :=
  state.complain s!"{state.name}: {state.line}: {message}" status

/-- Writes an error message and ends the script. -/
def fail (state : State) (message : String) : State :=
  (state.complainAt message 2).finish (.code 2)

/-- The number of the process, which no script can foresee. -/
def processNumber : String := "1"

/-- How the script ends in this state. -/
def exitStatus (state : State) : ExitStatus :=
  match state.ended with
  | some (.script status) => status
  | _ => .code state.status

/-- What the script leaves behind. -/
def execution (state : State) : Execution where
  status := state.exitStatus
  output := state.buffers[0]?.getD []
  errors := state.buffers[1]?.getD []

/-- The state after commands that kept their variables and what they ended to themselves. -/
def leave (before after : State) : State :=
  let status : Nat :=
    match after.exitStatus with
    | .code code => code
    | .signal number => 128 + number
  let ended : Option Ending :=
    match after.exitStatus with
    | .code _ => none
    | .signal number => some (.script (.signal number))
  { before with tree := after.tree, input := after.input, buffers := after.buffers, status, ended }

end State
end Shell
end ClassEnhancement
