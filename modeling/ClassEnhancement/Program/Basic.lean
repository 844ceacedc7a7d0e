import ClassEnhancement.FileTree.Operations

/-!
# Programs

A program is run with arguments, variables and input.  It may change files, and ends with a status,
output and error output; or it cannot be run at all.  What the programs of a system do is a value of
its own, so that everything about commands can be said of any programs.
-/

namespace ClassEnhancement

/-- A request to run a program. -/
structure Invocation where
  /-- Name or path of the program. -/
  program : String
  /-- Its arguments. -/
  arguments : List String
  /-- Variables of its environment. -/
  environment : List (String × String)
  /-- What it can read. -/
  input : Bytes
  deriving DecidableEq, Repr

/-- How a program ends. -/
inductive ExitStatus where
  /-- By itself, with a number. -/
  | code (number : Nat)
  /-- By a signal. -/
  | signal (number : Nat)
  deriving DecidableEq, Repr

namespace ExitStatus

/-- Names of the first signals, from number one. -/
def signalNames : List String :=
  ["SIGHUP", "SIGINT", "SIGQUIT", "SIGILL", "SIGTRAP", "SIGABRT", "SIGBUS", "SIGFPE", "SIGKILL",
    "SIGUSR1", "SIGSEGV", "SIGUSR2", "SIGPIPE", "SIGALRM", "SIGTERM"]

/-- Whether a program ended well. -/
def succeeded (status : ExitStatus) : Bool := status == .code 0

/-- Wording of a status. -/
def message : ExitStatus → String
  | code number => s!"exit status: {number}"
  | signal number =>
    match (0 :: List.range' 1 signalNames.length).zip ("" :: signalNames) |>.lookup number with
    | some name => if name = "" then s!"signal: {number}" else s!"signal: {number} ({name})"
    | none => s!"signal: {number}"

example : message (.signal 9) = "signal: 9 (SIGKILL)" := by rfl

end ExitStatus

/-- What a program leaves behind. -/
structure Execution where
  /-- How it ended. -/
  status : ExitStatus
  /-- What it wrote. -/
  output : Bytes
  /-- What it wrote as errors. -/
  errors : Bytes
  deriving DecidableEq, Repr

/-- What the programs of a system do. -/
structure Programs where
  /-- Runs a program, unless it cannot be run. -/
  run : FileTree → Invocation → FileTree × Except FileError Execution

end ClassEnhancement
